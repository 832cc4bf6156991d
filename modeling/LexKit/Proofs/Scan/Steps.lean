import LexKit.Tokenizer

/-!
# Steps of a scan

What one attempt can come to, said once and for arbitrary recognizers: the first that does not decline
decides, and it does so in one of four ways. A scan is then its first step followed by the scan from the
next place, and `scanInduct` is the induction that goes with this.
-/

namespace LexKit

namespace Tokenizer

variable {τ : Type}

/-! ## One attempt -/

/-- The recognizer answers that nothing matches, and stays where it is. -/
def Declines (cursor : Cursor) (recognizer : Recognizer τ) : Prop :=
  (recognizer cursor).outcome = .noMatch ∧
    ((recognizer cursor).next cursor).position = cursor.position

/-- What an attempt comes to at the first recognizer that does not decline. -/
inductive Decides (cursor : Cursor) (recognizer : Recognizer τ) : Attempt τ → Prop where
  | accepts {token : Option τ} : (recognizer cursor).outcome = .matched token →
      ((recognizer cursor).next cursor).position ≠ cursor.position →
      Decides cursor recognizer (.accepted token (recognizer cursor).moved)
  | strays : (recognizer cursor).outcome = .noMatch →
      ((recognizer cursor).next cursor).position ≠ cursor.position →
      Decides cursor recognizer (.halted .strayed (recognizer cursor).moved)
  | stalls {token : Option τ} : (recognizer cursor).outcome = .matched token →
      ((recognizer cursor).next cursor).position = cursor.position →
      Decides cursor recognizer (.halted .stalled 0)
  | fails {error : ScanError} : (recognizer cursor).outcome = .failed error →
      Decides cursor recognizer (.halted (.failed error) (recognizer cursor).moved)

theorem attempt_cons_of_declines {cursor : Cursor} {recognizer : Recognizer τ}
    (declines : Declines cursor recognizer) (recognizers : List (Recognizer τ)) :
    attempt cursor (recognizer :: recognizers) = attempt cursor recognizers := by
  obtain ⟨outcome, still⟩ := declines
  simp only [attempt, outcome, still, ne_eq, not_true_eq_false, if_false]

theorem attempt_append_of_declines {cursor : Cursor} {before : List (Recognizer τ)}
    (declines : ∀ recognizer ∈ before, Declines cursor recognizer) (after : List (Recognizer τ)) :
    attempt cursor (before ++ after) = attempt cursor after := by
  induction before with
  | nil => rfl
  | cons recognizer before ih =>
      rw [List.cons_append, attempt_cons_of_declines (declines recognizer (by simp))]
      exact ih fun other member => declines other (by simp [member])

theorem attempt_cons_of_decides {cursor : Cursor} {recognizer : Recognizer τ} {result : Attempt τ}
    (decides : Decides cursor recognizer result) (recognizers : List (Recognizer τ)) :
    attempt cursor (recognizer :: recognizers) = result := by
  cases decides with
  | accepts outcome moves | strays outcome moves => simp [attempt, outcome, moves]
  | stalls outcome still => simp [attempt, outcome, still]
  | fails outcome => simp [attempt, outcome]

theorem declines_or_decides (cursor : Cursor) (recognizer : Recognizer τ) :
    Declines cursor recognizer ∨ ∃ result, Decides cursor recognizer result := by
  by_cases still : ((recognizer cursor).next cursor).position = cursor.position
  · cases outcome : (recognizer cursor).outcome with
    | noMatch => exact .inl ⟨outcome, still⟩
    | matched token => exact .inr ⟨_, .stalls outcome still⟩
    | failed error => exact .inr ⟨_, .fails outcome⟩
  · cases outcome : (recognizer cursor).outcome with
    | noMatch => exact .inr ⟨_, .strays outcome still⟩
    | matched token => exact .inr ⟨_, .accepts outcome still⟩
    | failed error => exact .inr ⟨_, .fails outcome⟩

/-- All that an attempt can come to. -/
theorem attempt_cases (cursor : Cursor) (recognizers : List (Recognizer τ)) :
    ((∀ recognizer ∈ recognizers, Declines cursor recognizer) ∧
      attempt cursor recognizers = .halted .nothingApplies 0) ∨
    ∃ before recognizer after, recognizers = before ++ recognizer :: after ∧
      (∀ other ∈ before, Declines cursor other) ∧
      Decides cursor recognizer (attempt cursor recognizers) := by
  induction recognizers with
  | nil => exact .inl ⟨by simp, rfl⟩
  | cons first recognizers ih =>
      rcases declines_or_decides cursor first with declines | ⟨result, decides⟩
      · rw [attempt_cons_of_declines declines]
        rcases ih with ⟨all, result⟩ | ⟨before, recognizer, after, rfl, all, decides⟩
        · exact .inl ⟨List.forall_mem_cons.2 ⟨declines, all⟩, result⟩
        · exact .inr ⟨first :: before, recognizer, after, rfl,
            List.forall_mem_cons.2 ⟨declines, all⟩, decides⟩
      · refine .inr ⟨[], first, recognizers, rfl, by simp, ?_⟩
        rw [attempt_cons_of_decides decides]
        exact decides

/-- What an attempt says when it halts: at the end of the list or at a recognizer that breaks a rule it has
not moved, except where a recognizer strayed or failed. -/
theorem attempt_halted {cursor : Cursor} {recognizers : List (Recognizer τ)} {ending : Ending} {moved : Nat}
    (halts : attempt cursor recognizers = .halted ending moved) :
    (ending = .nothingApplies ∧ moved = 0) ∨ (ending = .stalled ∧ moved = 0) ∨
      (ending = .strayed ∧ (cursor.forward moved).position ≠ cursor.position) ∨
      ∃ error, ending = .failed error := by
  rcases attempt_cases cursor recognizers with ⟨-, result⟩ | ⟨before, recognizer, after, -, -, decides⟩
  · rw [halts] at result
    cases result
    exact .inl ⟨rfl, rfl⟩
  · rw [halts] at decides
    cases decides with
    | strays outcome moves => exact .inr (.inr (.inl ⟨rfl, moves⟩))
    | stalls outcome still => exact .inr (.inl ⟨rfl, rfl⟩)
    | fails outcome => exact .inr (.inr (.inr ⟨_, rfl⟩))

end Tokenizer

/-! ## One step of a scan -/

namespace Scan

variable {τ : Type}

def behind (before : List (Piece τ)) (scan : Scan τ) : Scan τ :=
  { scan with pieces := before ++ scan.pieces }

@[simp] theorem behind_pieces (before : List (Piece τ)) (scan : Scan τ) :
    (scan.behind before).pieces = before ++ scan.pieces := rfl

@[simp] theorem behind_ending (before : List (Piece τ)) (scan : Scan τ) :
    (scan.behind before).ending = scan.ending := rfl

@[simp] theorem behind_lastStart (before : List (Piece τ)) (scan : Scan τ) :
    (scan.behind before).lastStart = scan.lastStart := rfl

@[simp] theorem behind_final (before : List (Piece τ)) (scan : Scan τ) :
    (scan.behind before).final = scan.final := rfl

theorem tokens_behind (before : List (Piece τ)) (scan : Scan τ) :
    (scan.behind before).tokens = before.filterMap (·.token) ++ scan.tokens :=
  List.filterMap_append

theorem result_behind (before : List (Piece τ)) (scan : Scan τ) :
    (scan.behind before).result = scan.result.map (before.filterMap (·.token) ++ ·) := by
  unfold result
  rw [behind_ending, tokens_behind]
  cases scan.ending <;> rfl

theorem behind_behind (first second : List (Piece τ)) (scan : Scan τ) :
    (scan.behind second).behind first = scan.behind (first ++ second) := by
  simp [behind]

end Scan

namespace Tokenizer

variable {τ : Type} {tokenizer : Tokenizer τ} {cursor : Cursor} {token : Option τ} {moved : Nat}

theorem scanFrom_of_atEnd (atEnd : cursor.atEnd = true) (before : List (Piece τ)) :
    tokenizer.scanFrom cursor before = ⟨before.reverse, .atEnd, cursor, cursor⟩ := by
  rw [scanFrom, if_pos atEnd]

theorem scanFrom_of_halted {ending : Ending} (inside : cursor.atEnd = false)
    (halts : attempt cursor tokenizer.recognizers = .halted ending moved) (before : List (Piece τ)) :
    tokenizer.scanFrom cursor before = ⟨before.reverse, ending, cursor, cursor.forward moved⟩ := by
  rw [scanFrom, if_neg (by simp [inside])]
  split
  · rename_i same
    cases halts.symm.trans same
    rfl
  · rename_i same
    cases halts.symm.trans same

theorem scanFrom_of_accepted (inside : cursor.atEnd = false)
    (accepts : attempt cursor tokenizer.recognizers = .accepted token moved) (before : List (Piece τ)) :
    tokenizer.scanFrom cursor before = tokenizer.scanFrom (cursor.forward moved)
      (⟨token, ⟨cursor.position, (cursor.forward moved).position⟩⟩ :: before) := by
  rw [scanFrom, if_neg (by simp [inside])]
  split
  · rename_i same
    cases accepts.symm.trans same
  · rename_i same
    cases accepts.symm.trans same
    rfl

/-- What holds at the end of the input and wherever an attempt halts, and at a place if it holds behind the
piece accepted there, holds at every place. -/
@[elab_as_elim]
theorem scanInduct (tokenizer : Tokenizer τ) {motive : Cursor → Prop}
    (atEnd : ∀ cursor, cursor.atEnd = true → motive cursor)
    (halted : ∀ cursor ending moved, cursor.atEnd = false →
      attempt cursor tokenizer.recognizers = .halted ending moved → motive cursor)
    (accepted : ∀ cursor token moved, cursor.atEnd = false →
      attempt cursor tokenizer.recognizers = .accepted token moved →
      motive (cursor.forward moved) → motive cursor)
    (cursor : Cursor) : motive cursor := by
  induction size : cursor.rest.length using Nat.strongRecOn generalizing cursor with
  | _ length ih =>
      subst size
      cases inside : cursor.atEnd with
      | true => exact atEnd cursor inside
      | false =>
          cases result : attempt cursor tokenizer.recognizers with
          | halted ending moved => exact halted cursor ending moved inside result
          | accepted token moved =>
              have shorter := Cursor.length_forward_lt (position_ne_of_attempt result)
              exact accepted cursor token moved inside result (ih _ shorter _ rfl)

/-- The pieces accepted before have no part in what a scan does. -/
theorem scanFrom_eq (tokenizer : Tokenizer τ) (cursor : Cursor) (before : List (Piece τ)) :
    tokenizer.scanFrom cursor before = (tokenizer.scan cursor).behind before.reverse := by
  unfold scan
  induction cursor using tokenizer.scanInduct generalizing before with
  | atEnd cursor atEnd => simp [scanFrom_of_atEnd atEnd, Scan.behind]
  | halted cursor ending moved inside halts => simp [scanFrom_of_halted inside halts, Scan.behind]
  | accepted cursor token moved inside accepts ih =>
      rw [scanFrom_of_accepted inside accepts, ih, scanFrom_of_accepted inside accepts, ih [_]]
      simp [Scan.behind]

theorem scan_of_atEnd (atEnd : cursor.atEnd = true) :
    tokenizer.scan cursor = ⟨[], .atEnd, cursor, cursor⟩ :=
  scanFrom_of_atEnd atEnd []

theorem scan_of_halted {ending : Ending} (inside : cursor.atEnd = false)
    (halts : attempt cursor tokenizer.recognizers = .halted ending moved) :
    tokenizer.scan cursor = ⟨[], ending, cursor, cursor.forward moved⟩ :=
  scanFrom_of_halted inside halts []

theorem scan_of_accepted (inside : cursor.atEnd = false)
    (accepts : attempt cursor tokenizer.recognizers = .accepted token moved) :
    tokenizer.scan cursor = (tokenizer.scan (cursor.forward moved)).behind
      [⟨token, ⟨cursor.position, (cursor.forward moved).position⟩⟩] := by
  rw [scan, scanFrom_of_accepted inside accepts, scanFrom_eq]
  rfl

/-- A scan ends where the input does, or with an attempt that halts. -/
theorem scan_ends (tokenizer : Tokenizer τ) (cursor : Cursor) :
    ((tokenizer.scan cursor).ending = .atEnd ∧ (tokenizer.scan cursor).lastStart.atEnd = true ∧
      (tokenizer.scan cursor).final = (tokenizer.scan cursor).lastStart) ∨
    ∃ moved, (tokenizer.scan cursor).lastStart.atEnd = false ∧
      attempt (tokenizer.scan cursor).lastStart tokenizer.recognizers =
        .halted (tokenizer.scan cursor).ending moved ∧
      (tokenizer.scan cursor).final = (tokenizer.scan cursor).lastStart.forward moved := by
  induction cursor using tokenizer.scanInduct with
  | atEnd cursor atEnd =>
      rw [scan_of_atEnd atEnd]
      exact .inl ⟨rfl, atEnd, rfl⟩
  | halted cursor ending moved inside halts =>
      rw [scan_of_halted inside halts]
      exact .inr ⟨moved, inside, halts, rfl⟩
  | accepted cursor token moved inside accepts ih =>
      rw [scan_of_accepted inside accepts]
      exact ih

end Tokenizer

end LexKit
