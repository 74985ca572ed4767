import Mathlib.Data.List.Basic
import Mathlib.Data.String.Basic

/-! Compatibility decomposition of text: every character is replaced by its full
decomposition, then each run of combining marks is put in the order of their
classes. The character database is a parameter; only the algorithm is fixed. -/
namespace TemplatePreview.UnicodeForms

/-- The two tables of the Unicode character database that NFKD reads. -/
structure Database where
  decomposition : Char → List Char
  combiningClass : Char → Nat

variable {database : Database}

/-- A mark moves behind the marks of a smaller class that follow it. -/
def insertMark (database : Database) (mark : Char) : List Char → List Char
  | [] => [mark]
  | next :: rest =>
    if 0 < database.combiningClass next ∧
        database.combiningClass next < database.combiningClass mark
    then next :: insertMark database mark rest
    else mark :: next :: rest

/-- Stable sorting of every run of marks by class. -/
def reorder (database : Database) (characters : List Char) : List Char :=
  characters.foldr (insertMark database) []

/-- Normalization form KD. -/
def nfkd (database : Database) (text : String) : String :=
  String.ofList (reorder database (text.toList.flatMap database.decomposition))

/-- A character that is its own decomposition and ends every run of marks. -/
structure Database.Starter (database : Database) (character : Char) : Prop where
  undecomposed : database.decomposition character = [character]
  unmarked : database.combiningClass character = 0

private theorem insertMark_append (starter : database.Starter separator) (mark : Char)
    (before after : List Char) :
    insertMark database mark (before ++ separator :: after) =
      insertMark database mark before ++ separator :: after := by
  induction before with
  | nil => simp [insertMark, starter.unmarked]
  | cons next rest ih =>
    simp only [List.cons_append, insertMark, ih]
    split <;> rfl

private theorem insertMark_starter (starter : database.Starter separator) (after : List Char) :
    insertMark database separator after = separator :: after := by
  cases after with
  | nil => rfl
  | cons next rest => simp [insertMark, starter.unmarked]

private theorem reorder_append (starter : database.Starter separator) (before after : List Char) :
    reorder database (before ++ separator :: after) =
      reorder database before ++ separator :: reorder database after := by
  induction before with
  | nil => exact insertMark_starter starter _
  | cons mark rest ih =>
    simp only [reorder, List.cons_append, List.foldr_cons] at ih ⊢
    rw [ih, insertMark_append starter]

/-- Normalization does not act across a starter. -/
theorem nfkd_append_starter (starter : database.Starter separator) (before after : String) :
    nfkd database (before ++ String.singleton separator ++ after) =
      nfkd database before ++ String.singleton separator ++ nfkd database after := by
  apply String.toList_injective
  simp only [nfkd, String.toList_ofList, String.toList_append, String.toList_singleton,
    List.flatMap_append, List.flatMap_cons,
    starter.undecomposed, List.append_assoc, List.singleton_append]
  exact reorder_append starter _ _

/-- A starter is still there after normalization. -/
theorem starter_mem_nfkd (starter : database.Starter separator) {text : String} (member : separator ∈ text.toList) :
    separator ∈ (nfkd database text).toList := by
  obtain ⟨before, after, split⟩ := List.append_of_mem member
  have whole : text = String.ofList before ++ String.singleton separator ++ String.ofList after :=
    String.toList_injective (by simp [split])
  rw [whole, nfkd_append_starter starter]
  simp

/-- Text already in the form is unchanged by normalization. -/
def Stable (database : Database) (text : String) : Prop := nfkd database text = text

/-- Stable pieces joined by a starter are stable. -/
theorem stable_intercalate (starter : database.Starter separator) (pieces : List String)
    (stable : ∀ piece ∈ pieces, Stable database piece) :
    Stable database ((String.singleton separator).intercalate pieces) := by
  induction pieces with
  | nil => rfl
  | cons piece rest ih =>
    cases rest with
    | nil =>
      rw [String.intercalate_singleton]
      exact stable piece (by simp)
    | cons next rest =>
      have tail := ih fun other member => stable other (List.mem_cons_of_mem _ member)
      unfold Stable at tail ⊢
      rw [String.intercalate_cons_cons, nfkd_append_starter starter, stable piece (by simp), tail]

end TemplatePreview.UnicodeForms
