import Scout.Stream.StableSort
import Scout.Wifi.Exchange
import Scout.Wifi.Spelling

/-! Two ways to connect to the master, and the addresses that each of them tries. -/

namespace Scout.Wifi

open Machine Dialogue NetworkM Text

/-- How long one attempt to reach the master takes at most. -/
def masterConnectTimeout : Duration := Duration.fromSecs 2

/-- Why the master is not reached for driving. -/
inductive Ros1Error where
  | missingScheme
  | missingPort (masterUri : Text)
  | unresolved (authority : Text) (kind : ErrorKind)
  | noDestination (authority : Text)
  | unreachable (authority : Text) (lastError : Option ErrorKind)
  deriving DecidableEq

/-- The text an error is displayed as, where the errors of the system have texts of their own. -/
def Ros1Error.display (describe : ErrorKind → String) : Ros1Error → String
  | .missingScheme => "ROS master URI must start with http://"
  | .missingPort masterUri =>
    "ROS master URI must include a host and port: " ++ String.ofList masterUri
  | .unresolved authority kind =>
    "cannot resolve ROS master " ++ String.ofList authority ++ ": " ++ describe kind
  | .noDestination authority =>
    "cannot resolve the Scout ROS master at " ++ String.ofList authority
  | .unreachable authority lastError =>
    "cannot reach the Scout ROS master at " ++ String.ofList authority ++
      (lastError.map fun kind => ": " ++ describe kind).getD "" ++
      ". Connect this computer to the robot_scout_… Wi-Fi, wait for the Scout to finish " ++
      "starting, and try again"

/-- The host and the port of the master's address. -/
def masterAuthority (masterUri : Text) : Except Ros1Error Text :=
  match masterUri.stripPrefix "http://".toList with
  | none => .error .missingScheme
  | some withoutScheme =>
    -- Whatever follows the first slash is not looked at.
    let authority := (withoutScheme.split ['/']).headD []
    if authority.isEmpty ∨ !authority.contains ':' then .error (.missingPort masterUri)
    else .ok authority

/-- Try the destinations in turn until one of them accepts, given the last failure. -/
def reachFrom (authority : Text) (lastError : Option ErrorKind) :
    List SocketAddr → NetworkM Ros1Error SocketAddr
  | [] => fail (.unreachable authority lastError)
  | destination :: rest => do
    match ← (connectTimeout destination masterConnectTimeout).attempt with
    | .ok _ => return destination
    | .error kind => reachFrom authority (some kind) rest

/-- The first address of the master that accepts a connection, where the resolver is given. -/
def reachableMasterAddress (toSocketAddrs : Text → Except ErrorKind (List SocketAddr))
    (masterUri : Text) : NetworkM Ros1Error SocketAddr := do
  let authority ← ofExcept (masterAuthority masterUri)
  let addresses ← ofExcept ((toSocketAddrs authority).mapError (.unresolved authority))
  -- All addresses are sorted, and only then some are left out.
  let destinations := sortIpv4First addresses
  if destinations.isEmpty then fail (.noDestination authority)
  else reachFrom authority none (destinations.take 8)

/-- The connection to the master over which the service is looked up. -/
def connectMaster (master : Endpoint) (deadline : Instant) :
    NetworkM WifiProvisioningError Connection := do
  let addresses ← master.resolve deadline
  connect addresses deadline

/-- Looking up the service begins with that connection. -/
theorem lookupService_connects (parser : XmlParser) (master : Endpoint) (caller : Text)
    (deadline : Instant) : lookupService parser master caller deadline = do
      let connection ← connectMaster master deadline
      let masterAddress ← (peerAddr connection.stream).mapError transportError
      (connection.writeAll (lookupRequest master caller).utf8).mapError transportError
      let body ← readHttpBody connection
      let uri ← ofExcept (serviceUri parser body)
      return (uri, masterAddress) := by
  -- The two parts of the connection are put together.
  unfold lookupService connectMaster
  rw [bind_assoc]

/-- An accepted address of the master has the same authority for driving. -/
theorem masterAuthority_of_parse {uri : Text} {master : Endpoint}
    (accepted : Endpoint.parse uri "http://".toList true = .ok master) :
    masterAuthority uri = .ok master.authority := by
  -- The authority ends at the first slash, and contains a colon.
  have spelled := Endpoint.spelled_of_parse accepted
  obtain ⟨below, root⟩ := spelled.root
  have disjoint : ∀ char ∈ ['/'], char ∉ master.authority := by
    simpa using spelled.separate
  have found : ∃ rest, uri.stripPrefix "http://".toList = some rest ∧
      (rest.split ['/']).headD [] = master.authority := by
    -- The path is left out, or it begins with the slash.
    rcases spelled.whole with ⟨whole, _⟩ | whole
    · exact ⟨_, stripPrefix_eq_some.mpr whole, by rw [split_of_disjoint (by simp) disjoint]; rfl⟩
    · refine ⟨_, stripPrefix_eq_some.mpr whole, ?_⟩
      have spelt : master.authority ++ master.path = master.authority ++ ['/'] ++ below := by
        simp [root]
      rw [spelt, split_append (by simp) disjoint]
      rfl
  obtain ⟨rest, stripped, head⟩ := found
  have ported : master.authority.contains ':' = true := by simpa using spelled.ported
  have nonempty : master.authority.isEmpty = false := by
    cases same : master.authority with
    | nil => simp [same] at ported
    | cons _ _ => rfl
  simp only [masterAuthority, stripped, head, ported, nonempty]
  simp

/-- The addresses to which connections are attempted, in order. -/
def tried (events : List NetworkEvent) : List SocketAddr :=
  events.filterMap fun
    | .connected _ address _ _ => some address
    | _ => none

/-- Attempts follow one another. -/
@[simp] theorem tried_append (first second : List NetworkEvent) :
    tried (first ++ second) = tried first ++ tried second :=
  List.filterMap_append

/-- If the resolver answers, it answers with the given addresses. -/
def Resolves (addresses : List SocketAddr) : NetworkEvent → Prop
  | .resolved _ (.addresses result) => result = .ok addresses
  | _ => True

/-- The sequence of addresses that a program tries, when the resolver's answer is given. -/
structure Tries {ε α : Type} (addresses : List SocketAddr) (program : NetworkM ε α)
    (candidates : List SocketAddr) : Prop where
  /-- Whatever happens, no others are tried, and no other order is followed. -/
  within : ∀ script, (∀ event ∈ (program ⟨script, []⟩).2.log, Resolves addresses event) →
    tried (program ⟨script, []⟩).2.log <+: candidates
  /-- All of them are tried if none of them accepts in time. -/
  reached : ∃ script, (∀ event ∈ (program ⟨script, []⟩).2.log, Resolves addresses event) ∧
    tried (program ⟨script, []⟩).2.log = candidates

/-- A program tries one sequence of addresses only. -/
theorem Tries.unique {ε α : Type} {addresses first second : List SocketAddr}
    {program : NetworkM ε α} (one : Tries addresses program first)
    (other : Tries addresses program second) : first = second := by
  -- Each sequence is reached, and is then the beginning of the other.
  obtain ⟨script, admitted, rfl⟩ := one.reached
  obtain ⟨script', admitted', rfl⟩ := other.reached
  have forth := other.within script admitted
  have back := one.within script' admitted'
  exact forth.eq_of_length_le back.length_le

section Provisioning

/-- The addresses that resolving an endpoint finds, when the resolver's answer is given. -/
def resolvedAddresses (endpoint : Endpoint) (addresses : List SocketAddr) : List SocketAddr :=
  match IpAddr.parse endpoint.host with
  | some ip => [{ ip, port := endpoint.port }]
  | none => sortIpv4First (addresses.take 8)

/-- Events that are no attempts try nothing. -/
theorem tried_eq_nil {events : List NetworkEvent}
    (quiet : ∀ event ∈ events, tried [event] = []) : tried events = [] := by
  -- Each event is looked at for itself.
  induction events with
  | nil => rfl
  | cons event rest ih =>
    have first := quiet event List.mem_cons_self
    have others := ih fun other member => quiet other (List.mem_cons_of_mem _ member)
    rw [← List.singleton_append, tried_append, first, others, List.append_nil]

/-- One attempt tries its address, unless it waits before it. -/
theorem leaves_connectTimeout {address : SocketAddr} {timeout : Duration} :
    Leaves (fun events reply => tried events <+: [address] ∧
      (reply ≠ .waiting → tried events = [address])) (connectTimeout address timeout) := by
  -- Whether the attempt succeeds or not, its address has been tried.
  apply answered_connectTimeout
  · exact ⟨List.nil_prefix, fun answered => absurd rfl answered⟩
  · exact fun stream result => ⟨List.prefix_rfl, fun _ => rfl⟩

/-- After an attempt that fails, the rest may be tried, and nothing after one that succeeds. -/
theorem within_attempt {ε α : Type} {address : SocketAddr} {rest : List SocketAddr}
    {timeout : Duration} {next : Except ErrorKind TcpStream → NetworkM ε α}
    (accepted : ∀ stream, ∃ value, next (.ok stream) = pure value)
    (later : ∀ kind, Leaves (fun events _ => tried events <+: rest) (next (.error kind))) :
    Leaves (fun events _ => tried events <+: address :: rest)
      ((connectTimeout address timeout).attempt >>= next) := by
  -- The attempt itself comes first, also if it is never answered.
  refine Leaves.bind leaves_connectTimeout.attempt (fun _ _ caught => caught.elim)
    (fun events attempted => ?_) fun events result attempted => ?_
  · exact attempted.1.trans (List.prefix_append [address] rest)
  · cases result with
    | ok stream =>
      obtain ⟨value, ends⟩ := accepted stream
      rw [ends]
      apply leaves_pure
      rw [List.append_nil]
      exact attempted.1.trans (List.prefix_append [address] rest)
    | error kind =>
      refine (later kind).mono fun more _ within => ?_
      rw [tried_append, attempted.2 (by simp)]
      exact (List.prefix_append_right_inj [address]).mpr within

/-- Connecting tries the addresses in turn. -/
theorem leaves_connectFrom {deadline : Instant} (last : WifiProvisioningError)
    (addresses : List SocketAddr) :
    Leaves (fun events _ => tried events <+: addresses) (connectFrom deadline last addresses) := by
  -- The induction is on the addresses that are still to be tried.
  induction addresses generalizing last with
  | nil => exact leaves_fail List.prefix_rfl
  | cons address rest ih =>
    have clock : Emits (fun event => tried [event] = []) (remaining deadline) :=
      emits_remaining fun _ => rfl
    refine Leaves.after clock (fun events more _ quiet within => ?_) (fun _ => List.nil_prefix)
      List.nil_prefix fun left => ?_
    · -- Reading the clock tries nothing.
      rwa [tried_append, tried_eq_nil quiet]
    · exact within_attempt (fun stream => ⟨_, rfl⟩) fun kind => ih _

/-- What resolving leaves behind: no attempt, and the addresses that the resolver's answer gives. -/
def ResolveLeft (endpoint : Endpoint) (addresses : List SocketAddr) (events : List NetworkEvent)
    (reply : Reply WifiProvisioningError (List SocketAddr)) : Prop :=
  tried events = [] ∧ ∀ found, reply = .returned found →
    (∀ event ∈ events, Resolves addresses event) → found = resolvedAddresses endpoint addresses

/-- Events that are no attempts may come before. -/
theorem ResolveLeft.ignores {endpoint : Endpoint} {addresses : List SocketAddr}
    {events more : List NetworkEvent} {reply : Reply WifiProvisioningError (List SocketAddr)}
    (quiet : ∀ event ∈ events, tried [event] = [])
    (left : ResolveLeft endpoint addresses more reply) :
    ResolveLeft endpoint addresses (events ++ more) reply := by
  -- Of the events before nothing is asked.
  refine ⟨by rw [tried_append, tried_eq_nil quiet, left.1, List.append_nil], ?_⟩
  intro found returned resolves
  exact left.2 found returned fun event member => resolves event (List.mem_append_right _ member)

/-- A program that finds nothing leaves nothing to be said. -/
theorem resolveLeft_unfound {endpoint : Endpoint} {addresses : List SocketAddr}
    {events : List NetworkEvent} {reply : Reply WifiProvisioningError (List SocketAddr)}
    (quiet : tried events = []) (unfound : ∀ found, reply ≠ .returned found) :
    ResolveLeft endpoint addresses events reply :=
  ⟨quiet, fun found returned => absurd returned (unfound found)⟩

/-- Waiting for the resolver's thread leaves what it sends behind. -/
theorem leaves_receiveResolved {timeout : Duration} :
    Leaves (fun events reply => tried events = [] ∧
      ∀ sent, reply = .returned sent → events = [.resolved timeout sent])
      (receiveResolved timeout : NetworkM WifiProvisioningError ResolverReply) := by
  -- What the thread sends is returned.
  apply answered_receiveResolved
  · exact ⟨rfl, nofun⟩
  · intro sent
    exact ⟨rfl, fun other same => by cases same; rfl⟩

/-- Resolving an endpoint finds the addresses that the resolver's answer gives. -/
theorem leaves_resolve {endpoint : Endpoint} {deadline : Instant} (addresses : List SocketAddr) :
    Leaves (ResolveLeft endpoint addresses) (endpoint.resolve deadline) := by
  unfold Endpoint.resolve
  cases numeric : IpAddr.parse endpoint.host with
  | some ip =>
    -- A host that is a number is not asked for.
    refine leaves_pure ⟨rfl, fun found returned _ => ?_⟩
    cases returned
    rw [resolvedAddresses, numeric]
  | none =>
    have spawned : Emits (fun event => tried [event] = [])
        ((spawnResolver endpoint.host endpoint.port).mapError transportError) := by
      apply Emits.mapError
      exact emits_askDone fun _ => rfl
    have clock : Emits (fun event => tried [event] = []) (remaining deadline) :=
      emits_remaining fun _ => rfl
    -- The thread is started, the time is measured, and the answer is waited for.
    refine Leaves.after spawned (fun _ _ _ => ResolveLeft.ignores)
      (fun _ => resolveLeft_unfound rfl (by simp)) (resolveLeft_unfound rfl (by simp)) fun _ => ?_
    refine Leaves.after clock (fun _ _ _ => ResolveLeft.ignores)
      (fun _ => resolveLeft_unfound rfl (by simp)) (resolveLeft_unfound rfl (by simp)) fun left => ?_
    refine Leaves.bind leaves_receiveResolved (fun _ _ sent => resolveLeft_unfound sent.1 (by simp))
      (fun _ sent => resolveLeft_unfound sent.1 (by simp)) fun events reply sent => ?_
    obtain ⟨quiet, known⟩ := sent
    obtain rfl := known reply rfl
    -- Only an answer with some addresses is returned.
    cases reply with
    | addresses result =>
      cases result with
      | error kind => exact leaves_fail (resolveLeft_unfound rfl (by simp))
      | ok listed =>
        cases cut : listed.take 8 with
        -- An empty answer is an error.
        | nil =>
          simp only [ResolverReply.sent, Except.map, cut]
          exact leaves_fail (resolveLeft_unfound rfl (by simp))
        | cons first others =>
          simp only [ResolverReply.sent, Except.map, cut]
          refine leaves_pure ⟨rfl, fun found returned resolves => ?_⟩
          -- What is returned is what the resolver has answered.
          cases returned
          have same : Except.ok listed = Except.ok addresses :=
            resolves _ (List.mem_append_left _ (List.mem_singleton.mpr rfl))
          cases same
          rw [resolvedAddresses, numeric, cut]
    | timeout => exact leaves_fail (resolveLeft_unfound rfl (by simp))
    | disconnected => exact leaves_fail (resolveLeft_unfound rfl (by simp))

/-- The answers to attempts that are all refused, with the clock standing still. -/
def refusals (addresses : List SocketAddr) : List SystemAnswer :=
  addresses.flatMap fun _ => [.time 0, .done (.error .other)]

/-- While the clock stands still before the deadline, there is time left. -/
theorem remaining_still {deadline : Instant} (positive : 0 < deadline) (script : List SystemAnswer)
    (log : List NetworkEvent) :
    remaining deadline ⟨.time 0 :: script, log⟩ = (.returned deadline, ⟨script, log ++ [.now 0]⟩) := by
  -- All the time until the deadline is left.
  have left : (Duration.since deadline 0).filter (fun left => left ≠ 0) = some deadline := by
    simp [Duration.since, Nat.pos_iff_ne_zero.mp positive]
  have reading : (instantNow : NetworkM WifiProvisioningError Instant) ⟨.time 0 :: script, log⟩ =
      (.returned 0, ⟨script, log ++ [.now 0]⟩) := rfl
  rw [remaining, bind_returned reading]
  simp only [left]
  rfl

/-- A refused attempt. -/
def refused (address : SocketAddr) (timeout : Duration) (log : List NetworkEvent) : NetworkEvent :=
  .connected log.length address timeout (.error .other)

/-- An attempt that is refused leaves itself behind. -/
theorem attempt_refused {δ : Type} (address : SocketAddr) (timeout : Duration)
    (script : List SystemAnswer) (log : List NetworkEvent) :
    ((connectTimeout address timeout).attempt : NetworkM δ _)
        ⟨.done (.error .other) :: script, log⟩ =
      (.returned (.error .other), ⟨script, log ++ [refused address timeout log]⟩) := rfl

/-- If every attempt is refused in time, all addresses are tried. -/
theorem tried_connectFrom {deadline : Instant} (positive : 0 < deadline)
    (last : WifiProvisioningError) (addresses : List SocketAddr) (log : List NetworkEvent) :
    ∃ events, (connectFrom deadline last addresses ⟨refusals addresses, log⟩).2.log = log ++ events ∧
      tried events = addresses ∧ ∀ other, ∀ event ∈ events, Resolves other event := by
  -- The induction is on the addresses that are still to be tried.
  induction addresses generalizing last log with
  | nil => exact ⟨[], (List.append_nil log).symm, rfl, by simp⟩
  | cons address rest ih =>
    obtain ⟨events, added, all, free⟩ := ih (transportError .other)
      (log ++ [.now 0] ++ [refused address (min deadline (Duration.fromSecs 2)) (log ++ [.now 0])])
    refine ⟨[.now 0] ++ [refused address (min deadline (Duration.fromSecs 2)) (log ++ [.now 0])] ++
      events, ?_, ?_, ?_⟩
    · have scripted : refusals (address :: rest) =
          .time 0 :: .done (.error .other) :: refusals rest := rfl
      rw [scripted, connectFrom, bind_returned (remaining_still positive _ _),
        bind_returned (attempt_refused _ _ _ _)]
      simp only
      rw [added]
      simp only [List.append_assoc]
    · rw [tried_append, all]
      rfl
    · intro other event member
      simp only [List.mem_append, List.mem_singleton] at member
      rcases member with (rfl | rfl) | later
      · trivial
      · trivial
      · exact free other event later

/-- What resolving a host leaves behind when the resolver answers at once. -/
def answered (master : Endpoint) (deadline : Instant) (addresses : List SocketAddr) :
    List NetworkEvent :=
  [.spawned master.host master.port (.ok ()), .now 0,
    .resolved deadline (.addresses (.ok addresses))]

/-- Resolving a host finds the first addresses of the resolver's answer, sorted. -/
theorem resolve_answered {master : Endpoint} {deadline : Instant} (positive : 0 < deadline)
    (named : IpAddr.parse master.host = none) (addresses : List SocketAddr)
    (script : List SystemAnswer) :
    master.resolve deadline ⟨.done (.ok ()) :: .time 0 :: .resolved (.addresses (.ok addresses)) ::
        script, []⟩ =
      (if addresses.take 8 = [] then .failed (.transport .notFound)
        else .returned (sortIpv4First (addresses.take 8)),
        ⟨script, answered master deadline addresses⟩) := by
  have spawned : (spawnResolver master.host master.port).mapError transportError
      ⟨.done (.ok ()) :: .time 0 :: .resolved (.addresses (.ok addresses)) :: script, []⟩ =
        (.returned (), ⟨.time 0 :: .resolved (.addresses (.ok addresses)) :: script,
          [.spawned master.host master.port (.ok ())]⟩) := rfl
  have received (log : List NetworkEvent) :
      (receiveResolved deadline : NetworkM WifiProvisioningError ResolverReply)
        ⟨.resolved (.addresses (.ok addresses)) :: script, log⟩ =
      (.returned (.addresses (.ok addresses)),
        ⟨script, log ++ [.resolved deadline (.addresses (.ok addresses))]⟩) := rfl
  -- One question after another is answered.
  rw [Endpoint.resolve, named]
  dsimp only
  rw [bind_returned spawned, bind_returned (remaining_still positive _ _),
    bind_returned (received _)]
  cases cut : addresses.take 8 with
  | nil =>
    simp only [ResolverReply.sent, Except.map, cut]
    rfl
  | cons first others =>
    simp only [ResolverReply.sent, Except.map, cut]
    rfl

/-- Connecting to the master for looking up the service tries the first addresses, sorted. -/
theorem tries_connectMaster {master : Endpoint} {deadline : Instant} (positive : 0 < deadline)
    (addresses : List SocketAddr) :
    Tries addresses (connectMaster master deadline)
      ((resolvedAddresses master addresses).take 8) where
  within script resolves := by
    have left : Leaves (fun events _ => (∀ event ∈ events, Resolves addresses event) →
        tried events <+: (resolvedAddresses master addresses).take 8)
        (connectMaster master deadline) := by
      refine Leaves.bind (leaves_resolve addresses) (fun events error left resolves => ?_)
        (fun events left resolves => ?_) fun events found left => ?_
      · -- Resolving tries nothing.
        rw [left.1]
        exact List.nil_prefix
      · rw [left.1]
        exact List.nil_prefix
      · refine (leaves_connectFrom _ _).mono fun more _ within resolves => ?_
        rw [tried_append, left.1, List.nil_append]
        rwa [left.2 found rfl fun event member => resolves event (List.mem_append_left _ member)]
          at within
    obtain ⟨events, added, related⟩ := left ⟨script, []⟩
    rw [List.nil_append] at added
    rw [added] at resolves ⊢
    exact related resolves
  reached := by
    have refusing (found : List SocketAddr) (log : List NetworkEvent) :=
      tried_connectFrom positive (.transport .notFound) (found.take 8) log
    cases numeric : IpAddr.parse master.host with
    | some ip =>
      -- Nobody is asked for a numeric host, whose only address is tried.
      obtain ⟨events, added, all, free⟩ := refusing [{ ip, port := master.port }] []
      refine ⟨refusals ([{ ip, port := master.port }].take 8), ?_⟩
      have resolved : master.resolve deadline = pure [{ ip, port := master.port }] := by
        rw [Endpoint.resolve, numeric]
      have log : (connectMaster master deadline
          ⟨refusals ([{ ip, port := master.port }].take 8), []⟩).2.log = events := by
        rw [connectMaster, resolved, pure_bind, connect, added, List.nil_append]
      rw [log, all, resolvedAddresses, numeric]
      exact ⟨free addresses, rfl⟩
    | none =>
      -- The thread answers at once, and then every attempt is refused.
      obtain ⟨events, added, all, free⟩ := refusing (sortIpv4First (addresses.take 8))
        (answered master deadline addresses)
      have ran := resolve_answered positive numeric addresses
        (refusals ((sortIpv4First (addresses.take 8)).take 8))
      have open_ : ∀ event ∈ answered master deadline addresses, Resolves addresses event := by
        simp [answered, Resolves]
      refine ⟨.done (.ok ()) :: .time 0 :: .resolved (.addresses (.ok addresses)) ::
        refusals ((sortIpv4First (addresses.take 8)).take 8), ?_⟩
      rw [resolvedAddresses, numeric, connectMaster]
      by_cases empty : addresses.take 8 = []
      · rw [if_pos empty] at ran
        rw [bind_failed ran, empty]
        exact ⟨open_, rfl⟩
      · rw [if_neg empty] at ran
        rw [bind_returned ran, connect, added, tried_append, all]
        exact ⟨List.forall_mem_append.mpr ⟨open_, free addresses⟩, rfl⟩

end Provisioning

section Driving

/-- Reaching the master tries the destinations in turn. -/
theorem leaves_reachFrom (authority : Text) (lastError : Option ErrorKind)
    (destinations : List SocketAddr) :
    Leaves (fun events _ => tried events <+: destinations)
      (reachFrom authority lastError destinations) := by
  -- The induction is on the destinations that are still to be tried.
  induction destinations generalizing lastError with
  | nil => exact leaves_fail List.prefix_rfl
  | cons destination rest ih =>
    exact within_attempt (fun stream => ⟨_, rfl⟩) fun kind => ih _

/-- If every attempt is refused, all destinations are tried. -/
theorem tried_reachFrom (authority : Text) (lastError : Option ErrorKind)
    (destinations : List SocketAddr) (log : List NetworkEvent) :
    ∃ events, (reachFrom authority lastError destinations
        ⟨destinations.map fun _ => .done (.error .other), log⟩).2.log = log ++ events ∧
      tried events = destinations ∧ ∀ other, ∀ event ∈ events, Resolves other event := by
  -- The induction is on the destinations that are still to be tried.
  induction destinations generalizing lastError log with
  | nil => exact ⟨[], (List.append_nil log).symm, rfl, by simp⟩
  | cons destination rest ih =>
    obtain ⟨events, added, all, free⟩ := ih (some .other)
      (log ++ [refused destination masterConnectTimeout log])
    refine ⟨[refused destination masterConnectTimeout log] ++ events, ?_, ?_, ?_⟩
    · rw [List.map_cons, reachFrom, bind_returned (attempt_refused _ _ _ _)]
      simp only
      rw [added]
      simp only [List.append_assoc]
    · rw [tried_append, all]
      rfl
    · intro other event member
      rcases List.mem_append.mp member with first | later
      · obtain rfl := List.mem_singleton.mp first
        trivial
      · exact free other event later

/-- Reaching the master for driving tries the first of the sorted addresses. -/
theorem tries_reachableMasterAddress
    {toSocketAddrs : Text → Except ErrorKind (List SocketAddr)} {uri authority : Text}
    {addresses : List SocketAddr} (named : masterAuthority uri = .ok authority)
    (resolved : toSocketAddrs authority = .ok addresses) :
    Tries addresses (reachableMasterAddress toSocketAddrs uri)
      ((sortIpv4First addresses).take 8) := by
  -- The authority and its addresses are known.
  have unfolded : reachableMasterAddress toSocketAddrs uri =
      if (sortIpv4First addresses).isEmpty then fail (.noDestination authority)
      else reachFrom authority none ((sortIpv4First addresses).take 8) := by
    unfold reachableMasterAddress
    rw [named]
    simp only [Dialogue.ofExcept, pure_bind, resolved, Except.mapError]
  rw [unfolded]
  by_cases empty : (sortIpv4First addresses).isEmpty = true
  · -- Without an address nothing is tried.
    rw [if_pos empty, List.isEmpty_iff.mp empty]
    exact ⟨fun _ _ => List.nil_prefix, [], by simp [fail], rfl⟩
  · rw [if_neg empty]
    constructor
    · -- The clock is not read, so the script does not matter.
      intro script resolves
      obtain ⟨events, added, within⟩ :=
        leaves_reachFrom authority none ((sortIpv4First addresses).take 8) ⟨script, []⟩
      rw [added, List.nil_append]
      exact within
    · obtain ⟨events, added, all, free⟩ :=
        tried_reachFrom authority none ((sortIpv4First addresses).take 8) []
      rw [List.nil_append] at added
      exact ⟨_, by rw [added]; exact free addresses, by rw [added, all]⟩

end Driving

section Agreement

/-- Nothing is lost by truncating first: no IPv4 address stands behind the eighth, or eight come first. -/
def TruncationSafe (addresses : List SocketAddr) : Prop :=
  (∀ address ∈ addresses.drop 8, address.isIpv4 = false) ∨
    ∀ address ∈ addresses.take 8, address.isIpv4 = true

/-- Both ways try the same sequence of addresses. -/
def SameSequence (toSocketAddrs : Text → Except ErrorKind (List SocketAddr)) (uri : Text)
    (master : Endpoint) (deadline : Instant) (addresses : List SocketAddr) : Prop :=
  ∃ candidates, Tries addresses (connectMaster master deadline) candidates ∧
    Tries addresses (reachableMasterAddress toSocketAddrs uri) candidates

variable {toSocketAddrs : Text → Except ErrorKind (List SocketAddr)} {uri : Text}
  {master : Endpoint} {deadline : Instant} {addresses : List SocketAddr}

/-- Both ways try the same addresses exactly if nothing is lost by truncating first. -/
theorem sameSequence_iff (accepted : Endpoint.parse uri "http://".toList true = .ok master)
    (positive : 0 < deadline) (resolved : toSocketAddrs master.authority = .ok addresses)
    (numeric : ∀ ip, IpAddr.parse master.host = some ip →
      addresses = [{ ip, port := master.port }]) :
    SameSequence toSocketAddrs uri master deadline addresses ↔ TruncationSafe addresses := by
  -- Each program tries one sequence only, so the two sequences are compared.
  have forLookup := @tries_connectMaster master deadline positive addresses
  have forDriving := tries_reachableMasterAddress (masterAuthority_of_parse accepted) resolved
  have compared : SameSequence toSocketAddrs uri master deadline addresses ↔
      (resolvedAddresses master addresses).take 8 = (sortIpv4First addresses).take 8 := by
    constructor
    · intro same
      obtain ⟨candidates, first, second⟩ := same
      rw [forLookup.unique first, forDriving.unique second]
    · intro same
      exact ⟨_, forLookup, same ▸ forDriving⟩
  rw [compared, resolvedAddresses]
  cases host : IpAddr.parse master.host with
  | some ip =>
    -- A single address is neither truncated nor moved.
    rw [numeric ip host]
    exact iff_of_true rfl (.inl (by simp))
  | none =>
    -- Truncating once more changes nothing, and sorting is stable.
    have short : (sortIpv4First (addresses.take 8)).length ≤ 8 := by
      rw [sortIpv4First, List.length_insertionSort, List.length_take]
      omega
    rw [List.take_of_length_le short]
    have moved := Stream.sort_take_eq_take_sort_iff (fun address : SocketAddr => !address.isIpv4) 8
      addresses
    simp only [Bool.not_eq_true', Bool.not_eq_false'] at moved
    exact moved

/-- The two ways to the master agree on it and on the sequence of addresses. -/
theorem master_paths_agree_iff (accepted : Endpoint.parse uri "http://".toList true = .ok master)
    (positive : 0 < deadline) (resolved : toSocketAddrs master.authority = .ok addresses)
    (numeric : ∀ ip, IpAddr.parse master.host = some ip →
      addresses = [{ ip, port := master.port }]) :
    (masterAuthority uri = .ok master.authority ∧
      SameSequence toSocketAddrs uri master deadline addresses) ↔ TruncationSafe addresses :=
  (and_iff_right (masterAuthority_of_parse accepted)).trans
    (sameSequence_iff accepted positive resolved numeric)

/-- A master that is known by a name. -/
def namedMaster : Endpoint where
  host := "scout".toList
  port := 11311
  authority := "scout:11311".toList
  path := ['/']

/-- The address of that master is accepted, and its host is no number. -/
theorem namedMaster_parsed :
    Endpoint.parse "http://scout:11311".toList "http://".toList true = .ok namedMaster ∧
      IpAddr.parse namedMaster.host = none := by
  -- Both functions are evaluated.
  decide +kernel

/-- Two addresses, the newer version first, are tried in the same order on both ways. -/
theorem master_paths_agree_for_two :
    (masterAuthority "http://scout:11311".toList = .ok namedMaster.authority ∧
      SameSequence (fun _ => .ok [⟨.v6 1, 11311⟩, ⟨.v4 1, 11311⟩]) "http://scout:11311".toList
        namedMaster 1 [⟨.v6 1, 11311⟩, ⟨.v4 1, 11311⟩]) ↔
      TruncationSafe [⟨.v6 1, 11311⟩, ⟨.v4 1, 11311⟩] := by
  -- The name of the host is not a numeric address.
  apply master_paths_agree_iff namedMaster_parsed.1 Nat.one_pos rfl
  intro ip numeric
  rw [namedMaster_parsed.2] at numeric
  cases numeric

/-- Eight addresses of the newer version, and one of the older version behind them. -/
def crowded : List SocketAddr :=
  ((List.range 8).map fun index => ⟨.v6 (BitVec.ofNat 128 index), 11311⟩) ++ [⟨.v4 1, 11311⟩]

/-- With eight addresses before the only one of the older version, the two ways differ. -/
theorem crowded_paths_differ :
    ¬ (masterAuthority "http://scout:11311".toList = .ok namedMaster.authority ∧
      SameSequence (fun _ => .ok crowded) "http://scout:11311".toList namedMaster 1 crowded) := by
  intro agree
  -- The ninth address would have to be of the newer version.
  have unsafe_ : ¬ TruncationSafe crowded := by
    unfold TruncationSafe
    decide
  refine unsafe_ ((sameSequence_iff namedMaster_parsed.1 Nat.one_pos rfl ?_).mp agree.2)
  intro ip numeric
  rw [namedMaster_parsed.2] at numeric
  cases numeric

end Agreement

end Scout.Wifi
