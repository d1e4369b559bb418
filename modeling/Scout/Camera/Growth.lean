import Scout.Camera.Link
import Scout.Camera.Protocol

/-! What one step of the bridge adds to its record and to what it has written. -/

namespace Scout

namespace CameraServer

/-- A step records at most one event, a request or a frame only if it is one. -/
theorem Steps.records {before after : CameraServer} {event : CameraEvent}
    (taken : Steps before event after) :
    (after.history = before.history ∧
      ∀ connection, event ≠ .worker connection (.read (.data [cameraRequest]))) ∨
    ∃ happening, after.history = happening :: before.history ∧
      (∀ connection, happening = .requested connection ↔
        event = .worker connection (.read (.data [cameraRequest]))) ∧
      ∀ jpeg, happening = .published jpeg → event = .publish jpeg := by
  -- Publications and the deeds of workers are recorded, and nothing else is.
  cases taken with
  | publish jpeg => exact .inr ⟨.published jpeg, rfl, by simp, by simp⟩
  | @serve owner input serve effect works served =>
    cases served with
    | request was => exact .inr ⟨.requested owner, rfl, by simp, by simp⟩
    | answer was new stored fits => exact .inr ⟨.answered owner _, rfl, by simp, by simp⟩
    | drop was new empty => exact .inr ⟨.dropped owner, rfl, by simp, by simp⟩
    | move was quiet next => exact .inl ⟨rfl, fun connection same => quiet (by simp_all)⟩
    | await was old => exact .inl ⟨rfl, by simp⟩
    | giveUp was stopped => exact .inl ⟨rfl, by simp⟩
    | tooLarge was stored large => exact .inl ⟨rfl, by simp⟩
    | sent was => exact .inl ⟨rfl, by simp⟩
    | flushed was => exact .inl ⟨rfl, by simp⟩
    | write was progress offered => exact .inl ⟨rfl, by simp⟩
    | fail was => exact .inl ⟨rfl, by simp⟩
  | signal => exact .inl ⟨rfl, by simp⟩
  | connect => exact .inl ⟨rfl, by simp⟩
  | listen was idle => exact .inl ⟨rfl, by simp⟩
  | accept was waiting => exact .inl ⟨rfl, by simp⟩
  | refuse was full => exact .inl ⟨rfl, by simp⟩
  | welcome was room => exact .inl ⟨rfl, by simp⟩
  | uncount was => exact .inl ⟨rfl, by simp⟩
  | hire was => exact .inl ⟨rfl, by simp⟩
  | leave works was => exact .inl ⟨rfl, by simp⟩

/-- A step gives a connection at most one more answer. -/
theorem Steps.answers_grow {before after : CameraServer} {event : CameraEvent}
    (taken : Steps before event after) (connection : Connection) :
    answers connection after.history = answers connection before.history ∨
      ∃ latest, answers connection after.history =
        latest :: answers connection before.history := by
  -- Only an answer of the connection itself is kept.
  rcases taken.records with ⟨same, _⟩ | ⟨happening, recorded, _⟩
  · exact .inl (by rw [same])
  · rw [recorded]
    cases happening with
    | answered other jpeg =>
      by_cases own : other = connection
      · subst own
        exact .inr ⟨_, answers_answered jpeg⟩
      · exact .inl (if_neg own)
    | published jpeg => exact .inl rfl
    | requested other => exact .inl rfl
    | dropped other => exact .inl rfl

/-- A step counts a request exactly if it reads a request byte. -/
theorem Steps.requestCount_eq {before after : CameraServer} {event : CameraEvent}
    (taken : Steps before event after) (connection : Connection) :
    requestCount connection after.history = requestCount connection before.history +
      if event = .worker connection (.read (.data [cameraRequest])) then 1 else 0 := by
  -- The recorded event is a request of the connection exactly for such a read.
  rcases taken.records with ⟨same, quiet⟩ | ⟨happening, recorded, asks, _⟩
  · rw [same, if_neg (quiet connection), Nat.add_zero]
  · rw [recorded, requestCount, List.countP_cons]
    by_cases asked : event = .worker connection (.read (.data [cameraRequest]))
    · simp [asked, (asks connection).mpr asked, requestCount]
    · have other : happening ≠ .requested connection := fun same => asked ((asks connection).mp same)
      simp [asked, other, requestCount]

/-- A step publishes nothing unless it is a publication. -/
theorem Steps.publishedFrames_eq {before after : CameraServer} {event : CameraEvent}
    (taken : Steps before event after) (other : ∀ jpeg, event ≠ .publish jpeg) :
    publishedFrames after.history = publishedFrames before.history := by
  -- A recorded publication would be the event itself.
  rcases taken.records with ⟨same, _⟩ | ⟨happening, recorded, _, publishes⟩
  · rw [same]
  · rw [recorded]
    cases happening with
    | published jpeg => exact absurd (publishes jpeg rfl) (other jpeg)
    | requested connection => rfl
    | answered connection jpeg => rfl
    | dropped connection => rfl

/-- Connections are numbered upwards. -/
theorem Steps.nextConnection_le {before after : CameraServer} {event : CameraEvent}
    (taken : Steps before event after) : before.nextConnection ≤ after.nextConnection := by
  -- Only a new connection changes the next number.
  cases taken with
  | connect => exact Nat.le_succ _
  | publish jpeg => exact Nat.le_refl _
  | signal => exact Nat.le_refl _
  | listen was idle => exact Nat.le_refl _
  | accept was waiting => exact Nat.le_refl _
  | refuse was full => exact Nat.le_refl _
  | welcome was room => exact Nat.le_refl _
  | uncount was => exact Nat.le_refl _
  | hire was => exact Nat.le_refl _
  | serve works served => exact Nat.le_refl _
  | leave works was => exact Nat.le_refl _

/-- What has been written by a worker stays written. -/
theorem written_prefix {running : Bool} {frame : Mutex LatestFrame} {serve : CameraServe}
    {input : CameraInput} {effect : CameraEffect}
    (served : CameraServes running frame serve input effect) :
    serve.written <+: effect.serve.written := by
  -- Only a write adds anything.
  cases served with
  | write was progress offered => exact List.prefix_append _ _
  | _ => exact List.prefix_refl _

/-- What has been written on a connection stays written. -/
theorem Steps.writtenOn_prefix {before after : CameraServer} {event : CameraEvent}
    (truthful : before.Truthful) (taken : Steps before event after) (connection : Connection) :
    before.writtenOn connection <+: after.writtenOn connection := by
  -- A connection gets a worker once, and its worker only adds to what it has written.
  have replaced : ∀ (server : CameraServer) (owner : Connection) (worker : CameraWorker),
      server.writtenOn owner <+: worker.serve.written →
      server.writtenOn connection <+: (server.setWorker owner worker).writtenOn connection := by
    intro server owner worker longer
    by_cases own : connection = owner
    · subst own
      simpa [writtenOn, setWorker] using longer
    · have same : (server.setWorker owner worker).writtenOn connection =
          server.writtenOn connection := by simp [writtenOn, setWorker, own]
      exact same ▸ List.prefix_refl _
  cases taken with
  | @hire owner was =>
    refine replaced _ owner _ ?_
    have idle : before.workers owner = none := truthful.idle_of_waiting
      (by simp [was, CameraListenerPhase.held])
    show before.writtenOn owner <+: _
    simp [writtenOn, idle]
  | @serve owner input serve effect works served =>
    refine replaced _ owner _ ?_
    show before.writtenOn owner <+: effect.serve.written
    rw [writtenOn, works]
    exact written_prefix served
  | @leave owner serve works was =>
    refine replaced _ owner _ ?_
    have same : before.writtenOn owner = serve.written := by rw [writtenOn, works]
    exact same ▸ List.prefix_refl _
  | publish jpeg => exact List.prefix_refl _
  | signal => exact List.prefix_refl _
  | connect => exact List.prefix_refl _
  | listen was idle => exact List.prefix_refl _
  | accept was waiting => exact List.prefix_refl _
  | refuse was full => exact List.prefix_refl _
  | welcome was room => exact List.prefix_refl _
  | uncount was => exact List.prefix_refl _

end CameraServer

end Scout
