import Mathlib.Data.List.Infix

/-!
# Cutting lists at separators

Cut a list once at the leftmost occurrence of a pattern, or take what stands
before the first separator.  Each operation comes with the relation that it
computes.
-/

namespace SplitText

variable {Symbol : Type*} [DecidableEq Symbol]

/-- Cut at the leftmost occurrence of the pattern. -/
def splitOnce (pattern : List Symbol) :
    List Symbol → Option (List Symbol × List Symbol)
  | [] => if pattern = [] then some ([], []) else none
  | symbol :: text =>
      if pattern.isPrefixOf (symbol :: text) then
        some ([], (symbol :: text).drop pattern.length)
      else
        (splitOnce pattern text).map fun (before, after) =>
          (symbol :: before, after)

/-- What is left of a list that starts with the pattern. -/
def stripPrefix (pattern text : List Symbol) : Option (List Symbol) :=
  if pattern.isPrefixOf text then some (text.drop pattern.length) else none

/-- `before` ends where the pattern first occurs. -/
def IsLeftmost (pattern text before : List Symbol) : Prop :=
  (∃ after, text = before ++ pattern ++ after) ∧
    ∀ other after, text = other ++ pattern ++ after →
      before.length ≤ other.length

theorem stripPrefix_eq_some_iff {pattern text rest : List Symbol} :
    stripPrefix pattern text = some rest ↔ text = pattern ++ rest := by
  unfold stripPrefix
  split_ifs with starts
  · obtain ⟨rest', rfl⟩ := List.isPrefixOf_iff_prefix.mp starts
    simp
  · constructor
    · intro isSome
      cases isSome
    · rintro rfl
      simp at starts

theorem splitOnce_eq_none_iff {pattern text : List Symbol} :
    splitOnce pattern text = none ↔ ¬ pattern <:+: text := by
  induction text with
  | nil => simp [splitOnce]
  | cons symbol text ih =>
      by_cases starts : pattern <+: symbol :: text
      · simp [splitOnce, starts, starts.isInfix]
      · simp [splitOnce, starts, ih, List.infix_cons_iff]

theorem isLeftmost_of_splitOnce {pattern text before after : List Symbol}
    (cut : splitOnce pattern text = some (before, after)) :
    text = before ++ pattern ++ after ∧ IsLeftmost pattern text before := by
  induction text generalizing before with
  | nil =>
      by_cases isNil : pattern = []
      · subst isNil
        simp only [splitOnce, if_true, Option.some.injEq,
          Prod.mk.injEq] at cut
        obtain ⟨rfl, rfl⟩ := cut
        exact ⟨rfl, ⟨[], rfl⟩, fun _ _ _ => Nat.zero_le _⟩
      · simp [splitOnce, isNil] at cut
  | cons symbol text ih =>
      by_cases starts : pattern.isPrefixOf (symbol :: text)
      · simp only [splitOnce, starts, if_true, Option.some.injEq,
          Prod.mk.injEq] at cut
        obtain ⟨rfl, rfl⟩ := cut
        obtain ⟨rest, isRest⟩ := List.isPrefixOf_iff_prefix.mp starts
        have whole : symbol :: text =
            [] ++ pattern ++ (symbol :: text).drop pattern.length := by
          simp [← isRest]
        exact ⟨whole, ⟨_, whole⟩, fun _ _ _ => Nat.zero_le _⟩
      · simp only [splitOnce, starts, if_false, Option.map_eq_some_iff,
          Prod.mk.injEq, Prod.exists, Bool.false_eq_true] at cut
        obtain ⟨before, after, cut, rfl, rfl⟩ := cut
        obtain ⟨rfl, -, leftmost⟩ := ih cut
        refine ⟨rfl, ⟨after, rfl⟩, ?_⟩
        rintro (_ | ⟨first, other⟩) rest split
        · exact absurd (List.isPrefixOf_iff_prefix.mpr ⟨rest, split.symm⟩)
            starts
        · obtain ⟨-, split⟩ := List.cons.inj split
          have bound := leftmost other rest split
          simpa using bound

theorem splitOnce_eq_some_iff {pattern text before after : List Symbol} :
    splitOnce pattern text = some (before, after) ↔
      text = before ++ pattern ++ after ∧ IsLeftmost pattern text before := by
  constructor
  · exact isLeftmost_of_splitOnce
  · rintro ⟨rfl, -, leftmost⟩
    cases cut : splitOnce pattern (before ++ pattern ++ after) with
    | none =>
        exact absurd ⟨before, after, rfl⟩ (splitOnce_eq_none_iff.mp cut)
    | some parts =>
        obtain ⟨before', after'⟩ := parts
        obtain ⟨same, -, leftmost'⟩ := isLeftmost_of_splitOnce cut
        have sameLength : before.length = before'.length :=
          Nat.le_antisymm (leftmost before' after' same)
            (leftmost' before after rfl)
        rw [List.append_assoc, List.append_assoc] at same
        obtain ⟨rfl, rest⟩ := List.append_inj same sameLength
        rw [List.append_cancel_left rest]

/-- A list starts with `first`, and the separator comes next if anything
does. -/
def IsFirstPart (separator : Symbol) (text first : List Symbol) : Prop :=
  separator ∉ first ∧
    (text = first ∨ ∃ rest, text = first ++ separator :: rest)

theorem headD_splitOn_of_isFirstPart {separator : Symbol}
    {text first : List Symbol} (isFirst : IsFirstPart separator text first) :
    (text.splitOn separator).headD [] = first := by
  obtain ⟨absent, rest⟩ := isFirst
  have others : ∀ symbol ∈ first, (symbol == separator) = false := by
    intro symbol member
    rw [beq_eq_false_iff_ne]
    rintro rfl
    exact absent member
  rw [List.splitOn_eq_splitOnP]
  rcases rest with rfl | ⟨rest, rfl⟩
  · rw [List.splitOnP_eq_singleton others]
    rfl
  · rw [List.splitOnP_append_cons_of_forall_mem others separator (by simp)]
    rfl

theorem headD_splitOn_eq_iff {separator : Symbol} {text first : List Symbol} :
    (text.splitOn separator).headD [] = first ↔
      IsFirstPart separator text first := by
  constructor
  · rintro rfl
    by_cases present : separator ∈ text
    · obtain ⟨before, after, rfl, absent⟩ := List.eq_append_cons_of_mem present
      have isFirst : IsFirstPart separator (before ++ separator :: after)
          before :=
        ⟨absent, .inr ⟨after, rfl⟩⟩
      rw [headD_splitOn_of_isFirstPart isFirst]
      exact isFirst
    · have isFirst : IsFirstPart separator text text := ⟨present, .inl rfl⟩
      rw [headD_splitOn_of_isFirstPart isFirst]
      exact isFirst
  · exact headD_splitOn_of_isFirstPart

end SplitText
