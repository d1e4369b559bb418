import Mathlib.Data.List.Basic
import Mathlib.Data.List.DropRight

/-! The tokens between separators, and what lies within one part of a list. -/

namespace Scout.Tokens

variable {α : Type} {separates : α → Bool} {list token : List α}

/-- A list that ends, if it has an end, with a separator. -/
def Closes (separates : α → Bool) (before : List α) : Prop :=
  ∀ last ∈ before.getLast?, separates last = true

/-- A list that begins, if it has a beginning, with a separator. -/
def Opens (separates : α → Bool) (after : List α) : Prop :=
  ∀ first ∈ after.head?, separates first = true

/-- A list closes with its last element. -/
theorem closes_of_getLast? {last : α} (ends : list.getLast? = some last)
    (separate : separates last = true) : Closes separates list := by
  -- The last element is known.
  intro other same
  rw [ends] at same
  cases same
  exact separate

/-- A list opens with its first element. -/
theorem opens_of_head? {first : α} (begins : list.head? = some first)
    (separate : separates first = true) : Opens separates list := by
  -- The first element is known.
  intro other same
  rw [begins] at same
  cases same
  exact separate

/-- A token that stands between separators or the ends of the list. -/
def Stands (separates : α → Bool) (list token : List α) : Prop :=
  (∀ char ∈ token, separates char = false) ∧
    ∃ before after, list = before ++ token ++ after ∧
      Closes separates before ∧ Opens separates after

/-- A list is free of separators, or it goes on behind the first of them. -/
theorem free_or_split (separates : α → Bool) (list : List α) :
    (∀ char ∈ list, separates char = false) ∨
      ∃ first separator rest, list = first ++ separator :: rest ∧
        (∀ char ∈ first, separates char = false) ∧ separates separator = true := by
  -- The induction passes the elements before the first separator.
  induction list with
  | nil => exact .inl (List.forall_mem_nil _)
  | cons char others ih =>
    cases here : separates char with
    | true => exact .inr ⟨[], char, others, rfl, List.forall_mem_nil _, here⟩
    | false =>
      cases ih with
      | inl free => exact .inl (List.forall_mem_cons.mpr ⟨here, free⟩)
      | inr split =>
        obtain ⟨first, separator, rest, rfl, free, found⟩ := split
        exact .inr ⟨char :: first, separator, rest, rfl,
          List.forall_mem_cons.mpr ⟨here, free⟩, found⟩

/-- Whatever a list is split into stands between separators. -/
theorem stands_of_mem_splitOnP (member : token ∈ list.splitOnP separates) :
    Stands separates list token := by
  -- The induction is on the length, since what is behind the first separator is shorter.
  induction size : list.length using Nat.strongRecOn generalizing list with
  | _ count ih =>
    cases free_or_split separates list with
    | inl free =>
      rw [List.splitOnP_eq_singleton free, List.mem_singleton] at member
      subst member
      exact ⟨free, [], [], by simp, nofun, nofun⟩
    | inr split =>
      obtain ⟨first, separator, rest, rfl, free, found⟩ := split
      rw [List.splitOnP_append_cons_of_forall_mem free separator found, List.mem_cons] at member
      cases member with
      | inl here =>
        subst here
        exact ⟨free, [], separator :: rest, rfl, nofun, opens_of_head? rfl found⟩
      | inr later =>
        have shorter : rest.length < count := by
          rw [← size, List.length_append, List.length_cons]
          omega
        obtain ⟨inner, before, after, rfl, closes, opens⟩ := ih _ shorter later rfl
        refine ⟨inner, first ++ separator :: before, after, by simp, ?_, opens⟩
        -- What ends with the separator ends with it also behind the first token.
        intro last ends
        cases before with
        | nil =>
          have same : separator = last := by simpa using ends
          rw [← same]
          exact found
        | cons head tail =>
          refine closes last ?_
          simpa [List.getLast?_append, List.getLast?_cons] using ends

/-- A list is split into everything that stands between separators. -/
theorem mem_splitOnP_of_stands (stands : Stands separates list token) :
    token ∈ list.splitOnP separates := by
  obtain ⟨free, before, after, rfl, closes, opens⟩ := stands
  -- Split from the token on, it is the first of the tokens.
  have first : token ∈ (token ++ after).splitOnP separates := by
    cases after with
    | nil =>
      rw [List.append_nil, List.splitOnP_eq_singleton free]
      exact List.mem_singleton_self token
    | cons separator rest =>
      rw [List.splitOnP_append_cons_of_forall_mem free separator (opens _ rfl)]
      exact List.mem_cons_self
  rw [List.append_assoc]
  -- What is before the token ends with a separator, so it is split off.
  cases before using List.reverseRecOn with
  | nil => exact first
  | append_singleton before separator =>
    have found : separates separator = true := closes separator (by simp)
    rw [List.append_assoc, List.singleton_append, List.splitOnP_append_cons _ _ found,
      List.mem_append]
    exact .inr first

/-- A list is split into exactly what stands between separators. -/
theorem mem_splitOnP : token ∈ list.splitOnP separates ↔ Stands separates list token :=
  ⟨stands_of_mem_splitOnP, mem_splitOnP_of_stands⟩

section Within

variable {pattern lead core trail : List α}

/-- A pattern without the elements in front of a list occurs only in the list. -/
theorem infix_of_infix_append_left (some_ : pattern ≠ [])
    (foreign : ∀ char ∈ lead, char ∉ pattern) (found : pattern <:+: lead ++ core) :
    pattern <:+: core := by
  -- The pattern begins with none of the elements in front.
  induction lead with
  | nil => exact found
  | cons char others ih =>
    obtain ⟨absent, absents⟩ := List.forall_mem_cons.mp foreign
    rw [List.cons_append, List.infix_cons_iff] at found
    cases found with
    | inl begins =>
      cases pattern with
      | nil => exact absurd rfl some_
      | cons first pattern =>
        obtain ⟨same, _⟩ := List.cons_prefix_cons.mp begins
        exact absurd (same ▸ List.mem_cons_self) absent
    | inr later => exact ih absents later

/-- A pattern without the elements around a list occurs only in the list. -/
theorem infix_of_infix_between (some_ : pattern ≠ [])
    (front : ∀ char ∈ lead, char ∉ pattern) (back : ∀ char ∈ trail, char ∉ pattern)
    (found : pattern <:+: lead ++ core ++ trail) : pattern <:+: core := by
  rw [List.append_assoc] at found
  have ahead := infix_of_infix_append_left some_ front found
  -- What is behind the list is in front of it once everything is turned round.
  rw [← List.reverse_infix, List.reverse_append] at ahead
  rw [← List.reverse_infix]
  refine infix_of_infix_append_left (by simpa using some_) ?_ ahead
  intro char member inside
  exact back char (List.mem_reverse.mp member) (List.mem_reverse.mp inside)

end Within

section Search

variable {found : α → Bool} {item : α}

/-- The only item that is found is the first one. -/
theorem find?_eq_some_of_unique (member : item ∈ list) (here : found item = true)
    (only : ∀ other ∈ list, found other = true → other = item) :
    list.find? found = some item := by
  -- Something is found, and it can only be the item.
  cases search : list.find? found with
  | none => exact absurd here (List.find?_eq_none.mp search item member)
  | some other =>
    rw [only other (List.mem_of_find?_eq_some search) (List.find?_some search)]

end Search
end Scout.Tokens
