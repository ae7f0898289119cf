import Mathlib.Data.List.Basic

/-!
# Texts of several statements

A server reads one text as statements with semicolons between them.  Whether a semicolon ends
a statement depends on what was read before it: inside a quotation or a comment it does not.
Joining texts with semicolons and reading the result gives the statements of the texts exactly
when every text but the last one leaves the server where a semicolon counts.
-/

namespace TennisAlerts.Text

/-- How a server looks for the ends of statements. -/
structure Scanner where
  Mode : Type
  start : Mode
  step : Mode → Char → Mode
  /-- A semicolon that is read in this mode ends the statement. -/
  ends : Mode → Bool

namespace Scanner

variable (scanner : Scanner)

/-- The statements of a text, from the characters of the first one that are read already. -/
def statementsFrom (mode : scanner.Mode) (read : List Char) : List Char → List (List Char)
  | [] => [read]
  | character :: rest =>
      if character = ';' ∧ scanner.ends mode = true then
        read :: statementsFrom scanner.start [] rest
      else statementsFrom (scanner.step mode character) (read ++ [character]) rest

/-- The statements that a text holds. -/
def statements (text : List Char) : List (List Char) :=
  scanner.statementsFrom scanner.start [] text

/-- The mode at the end of a text. -/
def modeFrom (mode : scanner.Mode) : List Char → scanner.Mode
  | [] => mode
  | character :: rest =>
      if character = ';' ∧ scanner.ends mode = true then modeFrom scanner.start rest
      else modeFrom (scanner.step mode character) rest

/-- A semicolon behind the text ends its last statement. -/
def Closed (text : List Char) : Prop :=
  scanner.ends (scanner.modeFrom scanner.start text) = true

instance (text : List Char) : Decidable (scanner.Closed text) :=
  inferInstanceAs (Decidable (_ = true))

/-- `b";".join`. -/
def joined (texts : List (List Char)) : List Char :=
  List.intercalate [';'] texts

end Scanner

/-- The lists have different entries behind a common beginning. -/
def Parted {α : Type} (left right : List α) : Prop :=
  ∃ front first second rest other,
    left = front ++ first :: rest ∧ right = front ++ second :: other ∧ first ≠ second

namespace Parted

variable {α : Type} {left right : List α}

theorem ne (parted : Parted left right) : left ≠ right := by
  obtain ⟨front, first, second, rest, other, rfl, rfl, different⟩ := parted
  simp [different]

theorem append (parted : Parted left right) (rest other : List α) :
    Parted (left ++ rest) (right ++ other) := by
  obtain ⟨front, first, second, tail, tail', rfl, rfl, different⟩ := parted
  exact ⟨front, first, second, tail ++ rest, tail' ++ other, by simp, by simp, different⟩

theorem prepend (parted : Parted left right) (front : List α) :
    Parted (front ++ left) (front ++ right) := by
  obtain ⟨common, first, second, rest, other, rfl, rfl, different⟩ := parted
  exact ⟨front ++ common, first, second, rest, other, by simp, by simp, different⟩

end Parted

namespace Scanner

variable {scanner : Scanner}

/-- A semicolon behind a closed text begins a new text. -/
theorem statementsFrom_closed {text rest : List Char} {mode : scanner.Mode}
    (closed : scanner.ends (scanner.modeFrom mode text) = true) (read : List Char) :
    scanner.statementsFrom mode read (text ++ ';' :: rest) =
      scanner.statementsFrom mode read text ++ scanner.statements rest := by
  induction text generalizing mode read with
  | nil =>
      have here : scanner.ends mode = true := closed
      simp [statementsFrom, statements, here]
  | cons character text ih =>
      rw [List.cons_append, statementsFrom, statementsFrom]
      rw [modeFrom] at closed
      split
      · next ending =>
          rw [if_pos ending] at closed
          rw [ih closed, List.cons_append]
      · next inside =>
          rw [if_neg inside] at closed
          exact ih closed _

/-- The first statement begins with what is read already. -/
theorem statementsFrom_eq_cons (mode : scanner.Mode) (read text : List Char) :
    ∃ more rest, scanner.statementsFrom mode read text = (read ++ more) :: rest := by
  induction text generalizing mode read with
  | nil => exact ⟨[], [], by simp [statementsFrom]⟩
  | cons character text ih =>
      rw [statementsFrom]
      split
      · exact ⟨[], _, by rw [List.append_nil]⟩
      · obtain ⟨more, rest, same⟩ := ih (scanner.step mode character) (read ++ [character])
        exact ⟨character :: more, rest, by rw [same, List.append_assoc]; rfl⟩

/-- The last statement of a text that is not closed goes on behind the semicolon. -/
theorem statementsFrom_open {text : List Char} {mode : scanner.Mode}
    (opened : ¬ scanner.ends (scanner.modeFrom mode text) = true) (read rest : List Char) :
    Parted (scanner.statementsFrom mode read (text ++ ';' :: rest))
      (scanner.statementsFrom mode read text) := by
  induction text generalizing mode read with
  | nil =>
      have here : ¬ scanner.ends mode = true := opened
      obtain ⟨more, others, same⟩ :=
        statementsFrom_eq_cons (scanner.step mode ';') (read ++ [';']) rest
      refine ⟨[], read ++ [';'] ++ more, read, others, [], ?_, rfl, by simp⟩
      rw [List.nil_append, statementsFrom, if_neg fun both => here both.2, same]
      rfl
  | cons character text ih =>
      rw [List.cons_append, statementsFrom, statementsFrom]
      rw [modeFrom] at opened
      split
      · next ending =>
          rw [if_pos ending] at opened
          exact (ih opened []).prepend [read]
      · next inside =>
          rw [if_neg inside] at opened
          exact ih opened _

theorem joined_cons_cons (text next : List Char) (texts : List (List Char)) :
    joined (text :: next :: texts) = text ++ ';' :: joined (next :: texts) := by
  simp [joined, List.intercalate, List.intersperse]

/-- Closed texts can be joined. -/
theorem statements_joined {texts : List (List Char)} (nonempty : texts ≠ [])
    (closed : ∀ text ∈ texts.dropLast, scanner.Closed text) :
    scanner.statements (joined texts) = texts.flatMap scanner.statements := by
  induction texts with
  | nil => contradiction
  | cons text texts ih =>
      cases texts with
      | nil => simp [joined]
      | cons next texts =>
          have first : scanner.Closed text := closed text (by simp)
          have others : ∀ text ∈ (next :: texts).dropLast, scanner.Closed text :=
            fun other member => closed other (by simp [member])
          rw [joined_cons_cons, List.flatMap_cons, ← ih (by simp) others]
          exact statementsFrom_closed first []

/-- An open text swallows what is joined to it. -/
theorem parted_joined {texts : List (List Char)}
    (opened : ¬ ∀ text ∈ texts.dropLast, scanner.Closed text) :
    Parted (scanner.statements (joined texts)) (texts.flatMap scanner.statements) := by
  induction texts with
  | nil => simp at opened
  | cons text texts ih =>
      cases texts with
      | nil => simp at opened
      | cons next texts =>
          rw [joined_cons_cons, List.flatMap_cons]
          by_cases first : scanner.Closed text
          · have others : ¬ ∀ text ∈ (next :: texts).dropLast, scanner.Closed text := by
              intro all
              apply opened
              intro other member
              rw [List.dropLast_cons_cons, List.mem_cons] at member
              cases member with
              | inl same => exact same ▸ first
              | inr member => exact all other member
            have whole : scanner.statements (text ++ ';' :: joined (next :: texts)) =
                scanner.statements text ++ scanner.statements (joined (next :: texts)) :=
              statementsFrom_closed first []
            rw [whole]
            exact (ih others).prepend _
          · have longer : Parted (scanner.statements (text ++ ';' :: joined (next :: texts)))
                (scanner.statements text) := statementsFrom_open first [] _
            simpa using longer.append [] ((next :: texts).flatMap scanner.statements)

end Scanner

end TennisAlerts.Text
