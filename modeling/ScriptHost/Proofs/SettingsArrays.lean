import ScriptHost.Proofs.SettingsObjects

/-!
# Settings written as arrays

A record written as an array is read by position, which is another path of the decoder than the
one by key: it looks no field up and keeps no account of those it has seen, and it alone can run
out of fields. The two paths are compared item by item.

**Spellings (`Json.Listed`, `Settings.Respelled`).** An array and the object that binds the first
keys to its items. A settings document may be respelled so at either level, whichever way it is
written at the other.

**Lengths (`Settings.Overlong`).** An array with more items than its record has fields, at either
level.

**Results.**
* `Json.setInOrder_eq_setByKey`: both paths set the same fields, from any field on.
* `Json.record?_listed`, `Json.record?_array_too_long`: a record written as an array.
* `Settings.load_respelled`: a settings file with arrays in it.
-/
namespace ScriptHost

namespace Json

variable {α : Type} {fields : List (RecordField α)}

/-- The object that binds the keys of the first fields to the items. -/
def keyed (fields : List (RecordField α)) (items : List Value) : Value :=
  .object ((fields.map fun f => some f.key).zip items)

/-- An array, and the object it stands for. -/
inductive Listed (fields : List (RecordField α)) : Value → Value → Prop
  | intro {items : List Value} : items.length ≤ fields.length →
      Listed fields (.array items) (keyed fields items)

/-- From some field on, the items are read in order as they are with the keys in front of them:
each key is found at its field, and has not been seen before. -/
theorem setInOrder_eq_setByKey (hn : (fields.map (·.key)).Nodup) {rest : List (RecordField α)}
    (hsub : rest ⊆ fields) (hr : (rest.map (·.key)).Nodup) {seen : List String}
    (hseen : ∀ f ∈ rest, f.key ∉ seen) {items : List Value} (hl : items.length ≤ rest.length)
    (r : α) :
    setInOrder r rest items =
      setByKey fields seen r ((rest.map fun f => some f.key).zip items) := by
  induction rest generalizing seen items r with
  | nil =>
    obtain rfl := List.eq_nil_of_length_eq_zero (Nat.le_zero.1 hl)
    rfl
  | cons f rest ih =>
    cases items with
    | nil => rfl
    | cons v items =>
      rw [List.map_cons, List.nodup_cons] at hr
      rw [List.cons_subset] at hsub
      rw [List.forall_mem_cons] at hseen
      rw [List.map_cons, List.zip_cons_cons, setInOrder, setByKey, find?_key hn hsub.1]
      simp only [if_neg hseen.1]
      cases f.set v r with
      | none => rfl
      | some r' =>
        refine ih hsub.2 hr.2 (fun g hg => ?_) (Nat.le_of_succ_le_succ hl) r'
        rw [List.mem_cons, not_or]
        exact ⟨fun e => hr.1 (e ▸ List.mem_map_of_mem hg), hseen.2 g hg⟩

theorem setInOrder_too_long {items : List Value} (h : fields.length < items.length) (r : α) :
    setInOrder r fields items = none := by
  fun_induction setInOrder r fields items with
  | case1 => cases h
  | case2 => rfl
  | case3 => rfl
  | case4 _ _ _ _ _ _ _ ih => exact ih (Nat.lt_of_succ_lt_succ h)

theorem record?_listed (hn : (fields.map (·.key)).Nodup) (default : α) {v w : Value}
    (h : Listed fields v w) : record? fields default v = record? fields default w := by
  cases h with
  | intro hl => exact setInOrder_eq_setByKey hn (List.Subset.refl _) hn (by simp) hl default

theorem record?_array_too_long {items : List Value} (h : fields.length < items.length)
    (default : α) : record? fields default (.array items) = none :=
  setInOrder_too_long h default

end Json

open Json

theorem RuntimeOptions.ofJson?_listed {v w : Value} (h : Listed fields v w) :
    ofJson? v = ofJson? w :=
  record?_listed lawful.nodup_fields {} h

namespace Settings

/-! ## Spellings -/

/-- Documents of which each writes some of its records as arrays where the other writes objects.
The runtime options are the first item of an array, and a member of an object. -/
inductive Respelled : Value → Value → Prop
  | fields {v w : Value} : Listed fields v w → Respelled v w
  | item {v w : Value} {rest : List Value} : Listed RuntimeOptions.fields v w →
      Respelled (.array (v :: rest)) (.array (w :: rest))
  | member {v w : Value} {front back : Members} : Listed RuntimeOptions.fields v w →
      Respelled (.object (front ++ (some "ini", v) :: back))
        (.object (front ++ (some "ini", w) :: back))
  | symm {v w : Value} : Respelled v w → Respelled w v
  | trans {u v w : Value} : Respelled u v → Respelled v w → Respelled u w

/-- Documents with an array of more items than its record has fields. -/
inductive Overlong : Value → Prop
  | fields {items : List Value} : fields.length < items.length → Overlong (.array items)
  | item {items rest : List Value} : RuntimeOptions.fields.length < items.length →
      Overlong (.array (.array items :: rest))
  | member {items : List Value} {front back : Members} :
      RuntimeOptions.fields.length < items.length →
      Overlong (.object (front ++ (some "ini", .array items) :: back))

theorem ofJson?_respelled {v w : Value} (h : Respelled v w) : ofJson? v = ofJson? w := by
  induction h with
  | fields hl => exact record?_listed lawful.nodup_fields {} hl
  | item hl =>
    simp only [ofJson?, record?, Settings.fields, setInOrder, RuntimeOptions.ofJson?_listed hl]
  | member hl => exact ofJson?_ini_congr (RuntimeOptions.ofJson?_listed hl) _ _
  | symm _ ih => exact ih.symm
  | trans _ _ ih₁ ih₂ => exact ih₁.trans ih₂

/-- The runtime options of an object have to be some. -/
theorem ofJson?_ini_none {v : Value} (h : RuntimeOptions.ofJson? v = none)
    (front back : Members) : ofJson? (.object (front ++ (some "ini", v) :: back)) = none := by
  refine Option.eq_none_iff_forall_ne_some.2 fun s hs => ?_
  obtain ⟨-, hall⟩ := (record?_object_iff lawful {} s _).1 hs
  have hv : v ∈ valuesOf "ini" (front ++ (some "ini", v) :: back) := by
    simp [valuesOf_append, valuesOf_cons_self]
  rcases hall iniColumn List.mem_cons_self with ⟨hnil, -⟩ | ⟨u, hu, hm⟩
  · rw [show valuesOf "ini" _ = [] from hnil] at hv
    cases hv
  · rw [show valuesOf "ini" _ = [u] from hu, List.mem_singleton] at hv
    obtain rfl := hv
    have hm : RuntimeOptions.ofJson? v = some s.ini := hm
    rw [h] at hm
    cases hm

theorem ofJson?_overlong {v : Value} (h : Overlong v) : ofJson? v = none := by
  cases h with
  | fields hl => exact record?_array_too_long hl {}
  | @item items rest hl =>
    have hn : RuntimeOptions.ofJson? (.array items) = none := record?_array_too_long hl {}
    simp only [ofJson?, record?, Settings.fields, setInOrder, hn, Option.map_none]
  | member hl => exact ofJson?_ini_none (record?_array_too_long hl {}) _ _

/-- **Settings arrays.** A settings file in which a record is written as an array, the settings
themselves or their runtime options or both, gives the same settings as one with the object that
binds the first keys to the items, or is refused as that one is. It is always refused if the array
has more items than the record has fields. -/
theorem load_respelled (fs : FileSystem) (path : Bytes) (text : String) (v : Value)
    (hr : fs.readText path = .ok text) (hp : Json.parse? text = some v) :
    (∀ fs' path' text' w, fs'.readText path' = .ok text' → Json.parse? text' = some w →
        Respelled v w → (load fs' path').1.toOption = (load fs path).1.toOption) ∧
      (Overlong v → (load fs path).1 = .error (.parse path)) := by
  refine ⟨fun fs' path' text' w hr' hp' h => ?_, fun h => ?_⟩
  · rw [load_of_value hr hp, load_of_value hr' hp', ofJson?_respelled h]
    cases ofJson? w <;> rfl
  · rw [load_of_value hr hp, ofJson?_overlong h]

/-- Two arrays, one in the other, the two objects for them, and an object with too long an
array. -/
theorem load_respelled_nested :
    let arrays := "[[true],\"> \"]"
    let objects := "\x7b\"ini\":\x7b\"html_errors\":true\x7d,\"prompt\":\"> \"\x7d"
    let long := "\x7b\"ini\":[true,true,0,0,0,[],0]\x7d"
    let files : FileSystem :=
      ⟨[([[0x61]], .file (Utf8.encode arrays)), ([[0x62]], .file (Utf8.encode objects)),
        ([[0x63]], .file (Utf8.encode long))], []⟩
    (load files [0x62]).1.toOption =
        some { ini := { htmlErrors := true }, prompt := "> " } ∧
      (load files [0x63]).1 = .error (.parse [0x63]) := by
  intro arrays objects long files
  have hread {name : Bytes} {content : String}
      (hn : name = [0x61] ∧ content = arrays ∨ name = [0x62] ∧ content = objects ∨
        name = [0x63] ∧ content = long) : files.readText name = .ok content := by
    refine FileSystem.readText_of_held ?_
    have hl : files.locate true name = .ok ([name], some (.file (Utf8.encode content))) := by
      refine FileSystem.locate_ok_iff.2 ?_
      rcases hn with ⟨rfl, rfl⟩ | ⟨rfl, rfl⟩ | ⟨rfl, rfl⟩ <;>
        exact ⟨by decide, .arrive (by decide) rfl ⟨by simp, by simp⟩⟩
    unfold FileSystem.held?
    rw [hl]
    rfl
  have ha : Json.parse? arrays = some (.array [.array [.bool true], .string "> "]) := by
    have ht : Json.tokens? arrays = some [.openArray, .openArray, .bool true, .closeArray, .comma,
        .string "> ", .closeArray] := by decide +kernel
    rw [Json.parse?, ht]
    rfl
  have ho : Json.parse? objects = some (.object [(some "ini", .object [(some "html_errors",
      .bool true)]), (some "prompt", .string "> ")]) := by
    have ht : Json.tokens? objects = some [.openObject, .string "ini", .colon, .openObject,
        .string "html_errors", .colon, .bool true, .closeObject, .comma, .string "prompt", .colon,
        .string "> ", .closeObject] := by decide +kernel
    rw [Json.parse?, ht]
    rfl
  have hl : Json.parse? long = some (.object [(some "ini", .array [.bool true, .bool true,
      .number (.integer 0), .number (.integer 0), .number (.integer 0), .array [],
      .number (.integer 0)])]) := by
    have ht : Json.tokens? long = some [.openObject, .string "ini", .colon, .openArray,
        .bool true, .comma, .bool true, .comma, .number (.integer 0), .comma,
        .number (.integer 0), .comma, .number (.integer 0), .comma, .openArray, .closeArray,
        .comma, .number (.integer 0), .closeArray, .closeObject] := by decide +kernel
    rw [Json.parse?, ht]
    rfl
  constructor
  · rw [(load_respelled files [0x61] arrays _ (hread (Or.inl ⟨rfl, rfl⟩)) ha).1 files [0x62]
      objects _ (hread (Or.inr (Or.inl ⟨rfl, rfl⟩))) ho ?_,
      load_of_value (hread (Or.inl ⟨rfl, rfl⟩)) ha]
    · rfl
    · -- The inner array gives way first, as an item of the outer one.
      exact .trans (.item (.intro (by decide))) (.fields (.intro (by decide)))
  · exact (load_respelled files [0x63] long _ (hread (Or.inr (Or.inr ⟨rfl, rfl⟩))) hl).2
      (@Overlong.member _ [] [] (by decide))

end Settings

end ScriptHost
