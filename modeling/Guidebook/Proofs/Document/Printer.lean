import Guidebook.Proofs.Document.Field
import Guidebook.Proofs.Record.Grammar

namespace Guidebook.Document

/-- The fields of a suggestion, as a list shows them. -/
inductive Slot where
  | kind
  | note
  | body
  deriving DecidableEq, Repr

namespace Slot

/-- The key of a body tells its kind. -/
def bodyKey : Kind → Text
  | .cmd => "cmd".toList
  | .snippet => "content".toList

def key (k : Kind) : Slot → Text
  | .kind => "kind".toList
  | .note => "note".toList
  | .body => bodyKey k

/-- The kind stands beside its key, the texts stand in blocks. -/
def value (k : Kind) (f : Slot) : Text := if f = .kind then k.label else "|+".toList

def heading (k : Kind) (f : Slot) : Text := key k f ++ ": ".toList ++ value k f

def text (s : Suggestion) : Slot → Text
  | .kind => s.kind.label
  | .note => s.note.getD []
  | .body => s.body

/-- A line of a block under a key at column 4. -/
def blockRow (l : Text) : Text := if l = [] then [] else List.replicate 5 ' ' ++ l

/-- The block of a field. -/
def block (s : Suggestion) (f : Slot) : List Text :=
  if f = .kind then [] else (Text.rows (f.text s)).map blockRow

end Slot

/-- A suggestion as an entry of a list, with its fields in some order. -/
structure Item where
  suggestion : Suggestion
  order : List Slot
  complete : order.Perm [.kind, .note, .body]

namespace Item

/-- The fields that are there: without a note there is no field for it. -/
def slots (x : Item) : List Slot := x.order.filter fun f => f ≠ .note || x.suggestion.note.isSome

def fieldRows (s : Suggestion) (f : Slot) : List Text :=
  ("    ".toList ++ f.heading s.kind) :: f.block s

/-- The first field stands beside the dash, the others below it. -/
def rows (x : Item) : List Text :=
  match x.slots with
  | [] => []
  | f :: fs => ("  - ".toList ++ f.heading x.suggestion.kind) ::
      (f.block x.suggestion ++ fs.flatMap (fieldRows x.suggestion))

end Item

/-- A step as a document shows it. The description stands before or behind the suggestions, and
the key of a list without entries may be left out. -/
structure Written where
  title : Text
  description : Option Text
  items : List Item
  descriptionFirst : Bool
  terse : Bool

namespace Written

def toSection (w : Written) : Section := ⟨w.title, w.items.map Item.suggestion, w.description⟩

/-- The lines of a block under a key at column 0. -/
def block (t : Text) : List Text := (Text.rows t).map (' ' :: ·)

def descriptionRows (w : Written) : List Text :=
  match w.description with
  | none => []
  | some d => "desc: |+".toList :: block d

def itemRows (w : Written) : List Text :=
  if w.terse ∧ w.items = [] then [] else "suggestions:".toList :: w.items.flatMap Item.rows

def rows (w : Written) : List Text :=
  "step: |+".toList :: (' ' :: w.title) ::
    if w.descriptionFirst then w.descriptionRows ++ w.itemRows else w.itemRows ++ w.descriptionRows

end Written

/-- The lines of a document: its steps, with a separator between any two of them. -/
def documentRows (ws : List Written) : List Text := [separator].intercalate (ws.map Written.rows)

def print (ws : List Written) : Text := Text.unlines (documentRows ws)

/-- A line that shows something, or nothing at all. -/
def Visible (l : Text) : Prop := l = [] ∨ ∃ c ∈ l, Text.isBlank c = false

/-- No line of the text is lost in a block: each is visible, and none ends in a carriage return. -/
def Plain (t : Text) : Prop := ∀ l ∈ Text.rows t, Visible l ∧ l.getLast? ≠ some '\r'

structure Item.Plain (x : Item) : Prop where
  note (n : Text) (h : x.suggestion.note = some n) : n ≠ [] ∧ Document.Plain n
  body : Document.Plain x.suggestion.body

structure Written.Plain (w : Written) : Prop where
  oneLine : '\n' ∉ w.title
  title : Document.Plain w.title
  description (d : Text) (h : w.description = some d) : d ≠ [] ∧ Document.Plain d
  items : ∀ x ∈ w.items, x.Plain

theorem visible_iff {l : Text} : l = [] ∨ Text.allBlank l = false ↔ Visible l := by
  simp [Visible, Text.allBlank]

instance (l : Text) : Decidable (Visible l) := decidable_of_iff _ visible_iff

instance (t : Text) : Decidable (Plain t) := List.decidableBAll _ _

namespace Item

theorem mem_slots (x : Item) (f : Slot) :
    f ∈ x.slots ↔ f ≠ .note ∨ x.suggestion.note.isSome = true := by
  have hall : f ∈ x.order := by
    rw [x.complete.mem_iff]
    cases f <;> simp
  simp [slots, hall]

theorem slots_ne_nil (x : Item) : x.slots ≠ [] := by
  intro h
  have hk := (mem_slots x .kind).mpr (Or.inl (by simp))
  rw [h] at hk
  cases hk

theorem Plain.slot {x : Item} (h : x.Plain) {f : Slot} (hf : f ∈ x.slots) (hk : f ≠ .kind) :
    Document.Plain (f.text x.suggestion) := by
  cases f with
  | kind => exact absurd rfl hk
  | note =>
    obtain ⟨n, hn⟩ := Option.isSome_iff_exists.mp
      (((mem_slots x .note).mp hf).resolve_left fun hne => hne rfl)
    rw [Slot.text, hn]
    exact (h.note n hn).2
  | body => exact h.body

end Item

section Clean

open Text (Clean clean_append clean_replicate)

theorem Plain.clean {t : Text} (h : Plain t) : ∀ l ∈ Text.rows t, Clean l :=
  fun l hl => ⟨Text.newline_notMem_rows t l hl, (h l hl).2⟩

theorem Slot.clean_heading (k : Kind) (f : Slot) :
    Clean ("  - ".toList ++ f.heading k) ∧ Clean ("    ".toList ++ f.heading k) := by
  cases k <;> cases f <;> exact ⟨⟨by decide, by decide⟩, ⟨by decide, by decide⟩⟩

theorem Slot.clean_block {s : Suggestion} {f : Slot} (h : f ≠ .kind → Plain (f.text s)) :
    ∀ l ∈ f.block s, Clean l := by
  intro l hl
  rw [block] at hl
  split at hl
  · cases hl
  · rename_i hk
    obtain ⟨m, hm, rfl⟩ := List.mem_map.mp hl
    rw [blockRow]
    split
    · exact clean_replicate 0
    · exact clean_append (clean_replicate 5) ((h hk).clean m hm)

theorem Item.clean_rows {x : Item} (hp : x.Plain) : ∀ l ∈ x.rows, Clean l := by
  have hslot := fun f (hf : f ∈ x.slots) => Slot.clean_block (hp.slot hf)
  intro l hl
  rw [rows] at hl
  split at hl
  · cases hl
  · rename_i f fs hx
    rw [hx] at hslot
    rcases List.mem_cons.mp hl with rfl | hl
    · exact (Slot.clean_heading _ f).1
    rcases List.mem_append.mp hl with hl | hl
    · exact hslot f (by simp) l hl
    · obtain ⟨g, hg, hl⟩ := List.mem_flatMap.mp hl
      rcases List.mem_cons.mp hl with rfl | hl
      · exact (Slot.clean_heading _ g).2
      · exact hslot g (by simp [hg]) l hl

namespace Written

theorem clean_block {t : Text} (h : Document.Plain t) : ∀ l ∈ block t, Clean l := by
  intro l hl
  obtain ⟨m, hm, rfl⟩ := List.mem_map.mp hl
  exact clean_append (clean_replicate 1) (h.clean m hm)

variable {w : Written} (hp : w.Plain)

include hp

theorem clean_descriptionRows : ∀ l ∈ w.descriptionRows, Clean l := by
  intro l hl
  rw [descriptionRows] at hl
  split at hl
  · cases hl
  · rename_i d hd
    rcases List.mem_cons.mp hl with rfl | hl
    · exact ⟨by decide, by decide⟩
    · exact clean_block (hp.description d hd).2 l hl

theorem clean_itemRows : ∀ l ∈ w.itemRows, Clean l := by
  intro l hl
  rw [itemRows] at hl
  split at hl
  · cases hl
  · rcases List.mem_cons.mp hl with rfl | hl
    · exact ⟨by decide, by decide⟩
    · obtain ⟨x, hx, hl⟩ := List.mem_flatMap.mp hl
      exact Item.clean_rows (hp.items x hx) l hl

theorem clean_rows : ∀ l ∈ w.rows, Clean l := by
  have ht := hp.title.clean
  rw [Text.rows_single hp.oneLine] at ht
  intro l hl
  rcases List.mem_cons.mp hl with rfl | hl
  · exact ⟨by decide, by decide⟩
  rcases List.mem_cons.mp hl with rfl | hl
  · exact clean_append (clean_replicate 1) (ht _ (by simp))
  split at hl
  · exact (List.mem_append.mp hl).elim (clean_descriptionRows hp l) (clean_itemRows hp l)
  · exact (List.mem_append.mp hl).elim (clean_itemRows hp l) (clean_descriptionRows hp l)

end Written

theorem documentRows_cons (w v : Written) (ws : List Written) :
    documentRows (w :: v :: ws) = w.rows ++ separator :: documentRows (v :: ws) := by
  simp [documentRows, List.intercalate]

theorem clean_documentRows {ws : List Written} (hp : ∀ w ∈ ws, w.Plain) :
    ∀ l ∈ documentRows ws, Clean l := by
  induction ws with
  | nil => simp [documentRows, List.intercalate]
  | cons w ws ih =>
    have hw := Written.clean_rows (hp w (by simp))
    cases ws with
    | nil => simpa [documentRows, List.intercalate] using hw
    | cons v vs =>
      intro l hl
      rw [documentRows_cons] at hl
      rcases List.mem_append.mp hl with hl | hl
      · exact hw l hl
      rcases List.mem_cons.mp hl with rfl | hl
      · exact separator_clean
      · exact ih (fun u hu => hp u (by simp [hu])) l hl

end Clean

/-- A printed document is split into the lines that were printed. -/
theorem lines_print {ws : List Written} (hp : ∀ w ∈ ws, w.Plain) :
    Text.lines (print ws) = documentRows ws := Text.lines_unlines (clean_documentRows hp)

end Guidebook.Document
