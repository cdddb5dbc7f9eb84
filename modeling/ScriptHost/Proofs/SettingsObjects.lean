import ScriptHost.Proofs.FileWrites
import ScriptHost.Proofs.HistoryReload
import ScriptHost.Proofs.RecordMembers
import ScriptHost.Settings.File

/-!
# Settings written as objects

A settings file that holds an object is read by key. Each field has a type, and its default when
the key does not occur; the order of the members and members with other keys do not matter. The
runtime options are an object of their own inside the settings.

**Types.** For each type of a field, how its values are written: `Column.written` has a field mean
exactly that. Integers are in the range of their type because there are no others of that type.

**Documents (`Settings.Legible`, `Settings.Filled`).** When an object can be read, and what the
settings then are; both at the two levels.

**Results.**
* `bool?_eq_some`, `uint32?_eq_some`, ...: the decoders accept what is written so, and nothing
  else.
* `RuntimeOptions.lawful`, `Settings.lawful`: the fields of both records read their columns.
* `load_object`: what comes of a settings file that holds an object.
-/
namespace ScriptHost

namespace Json

/-! ## How values are written -/

def writtenText (t : String) : Value :=
  .string (some t)

def writtenUInt32 (n : UInt32) : Value :=
  .number (.integer n.toNat)

def writtenInt64 (n : Int64) : Value :=
  .number (.integer n.toInt)

def writtenTexts (ts : List String) : Value :=
  .array (ts.map writtenText)

def writtenOptionalText : Option String → Value
  | none => .null
  | some t => writtenText t

/-- A column whose values are written in one way only. -/
def Column.written {α β : Type} (key : String) (write : β → Value) (get : α → β)
    (put : α → β → α) : Column α :=
  ⟨key, β, fun v x => v = write x, get, put⟩

variable {v : Value}

theorem bool?_eq_some {b : Bool} : bool? v = some b ↔ v = .bool b := by
  cases v <;> simp [bool?]

theorem text?_eq_some {t : String} : text? v = some t ↔ v = writtenText t := by
  cases v <;> simp [text?, writtenText]

theorem integer?_eq_some {low high n : Int} :
    integer? low high v = some n ↔ v = .number (.integer n) ∧ low ≤ n ∧ n ≤ high := by
  cases v with
  | number m =>
    cases m with
    | integer k =>
      simp only [integer?, Value.number.injEq, Number.integer.injEq]
      split
      · rename_i h
        constructor
        · rintro ⟨⟩
          exact ⟨rfl, h⟩
        · rintro ⟨rfl, -⟩
          rfl
      · rename_i h
        simp only [reduceCtorEq, false_iff, not_and]
        rintro rfl hl
        exact fun hh => h ⟨hl, hh⟩
    | decimal => simp [integer?]
  | _ => simp [integer?]

theorem uint32?_eq_some {n : UInt32} : uint32? v = some n ↔ v = writtenUInt32 n := by
  have hn := n.toNat_lt
  simp only [uint32?, Option.map_eq_some_iff, integer?_eq_some, writtenUInt32]
  constructor
  · rintro ⟨k, ⟨rfl, hl, hh⟩, rfl⟩
    have hk : (UInt32.ofNat k.toNat).toNat = k.toNat := by
      rw [UInt32.toNat_ofNat']
      exact Nat.mod_eq_of_lt (by omega)
    rw [hk, Int.toNat_of_nonneg hl]
  · rintro rfl
    refine ⟨n.toNat, ⟨rfl, by omega, by omega⟩, ?_⟩
    rw [Int.toNat_natCast, UInt32.ofNat_toNat]

theorem int64?_eq_some {n : Int64} : int64? v = some n ↔ v = writtenInt64 n := by
  simp only [int64?, Option.map_eq_some_iff, integer?_eq_some, writtenInt64]
  constructor
  · rintro ⟨k, ⟨rfl, hl, hh⟩, rfl⟩
    rw [Int64.toInt_ofInt_of_le hl (by omega)]
  · rintro rfl
    have hl := n.le_toInt
    have hh := n.toInt_lt
    exact ⟨n.toInt, ⟨rfl, by omega, by omega⟩, Int64.ofInt_toInt n⟩

theorem mapM_text?_eq_some {items : List Value} {ts : List String} :
    items.mapM text? = some ts ↔ items = ts.map writtenText := by
  induction items generalizing ts with
  | nil => simp [eq_comm]
  | cons v rest ih =>
    rw [List.mapM_cons]
    cases ts with
    | nil => simp [Option.bind_eq_some_iff]
    | cons t ts => simp [Option.bind_eq_some_iff, text?_eq_some, ih, and_comm]

theorem texts?_eq_some {ts : List String} : texts? v = some ts ↔ v = writtenTexts ts := by
  cases v <;> simp [texts?, writtenTexts, mapM_text?_eq_some]

theorem optionalText?_eq_some {t : Option String} :
    optionalText? v = some t ↔ v = writtenOptionalText t := by
  cases v with
  | null => cases t <;> simp [optionalText?, writtenOptionalText, writtenText]
  | _ => cases t <;> simp [optionalText?, writtenOptionalText, text?, writtenText]

end Json

open Json

/-! ## The columns -/

def RuntimeOptions.columns : List (Column RuntimeOptions) := [
  .written "html_errors" .bool (·.htmlErrors) fun s b => { s with htmlErrors := b },
  .written "implicit_flush" .bool (·.implicitFlush) fun s b => { s with implicitFlush := b },
  .written "output_buffering" writtenUInt32 (·.outputBuffering)
    fun s n => { s with outputBuffering := n },
  .written "max_execution_time" writtenUInt32 (·.maxExecutionTime)
    fun s n => { s with maxExecutionTime := n },
  .written "max_input_time" writtenInt64 (·.maxInputTime) fun s n => { s with maxInputTime := n },
  .written "extra" writtenTexts (·.extra) fun s ts => { s with extra := ts }]

/-- The columns of the settings besides the runtime options. -/
def Settings.columns : List (Column Settings) := [
  .written "prompt" writtenText (·.prompt) fun s t => { s with prompt := t },
  .written "eval_name" writtenText (·.evalName) fun s t => { s with evalName := t },
  .written "history_suffix" writtenText (·.historySuffix) fun s t => { s with historySuffix := t },
  .written "php_config" writtenText (·.configCommand) fun s t => { s with configCommand := t },
  .written "library_path" writtenOptionalText (·.libraryPath)
    fun s t => { s with libraryPath := t }]

/-- The column of the runtime options. -/
def Settings.iniColumn : Column Settings :=
  ⟨"ini", RuntimeOptions, fun v ini => RuntimeOptions.ofJson? v = some ini, (·.ini),
    fun s ini => { s with ini := ini }⟩

theorem RuntimeOptions.lawful : Lawful RuntimeOptions.columns RuntimeOptions.fields where
  reads :=
    .cons (Column.readBy_of_decode fun _ _ => bool?_eq_some) <|
    .cons (Column.readBy_of_decode fun _ _ => bool?_eq_some) <|
    .cons (Column.readBy_of_decode fun _ _ => uint32?_eq_some) <|
    .cons (Column.readBy_of_decode fun _ _ => uint32?_eq_some) <|
    .cons (Column.readBy_of_decode fun _ _ => int64?_eq_some) <|
    .cons (Column.readBy_of_decode fun _ _ => texts?_eq_some) .nil
  nodup := by decide
  get_put := by simp [columns, Column.written]
  get_put_ne := by simp [columns, Column.written]
  ext := by
    rintro ⟨⟩ ⟨⟩ h
    simpa [columns, Column.written] using h

theorem Settings.lawful : Lawful (Settings.iniColumn :: Settings.columns) Settings.fields where
  reads :=
    .cons (Column.readBy_of_decode fun _ _ => Iff.rfl) <|
    .cons (Column.readBy_of_decode fun _ _ => text?_eq_some) <|
    .cons (Column.readBy_of_decode fun _ _ => text?_eq_some) <|
    .cons (Column.readBy_of_decode fun _ _ => text?_eq_some) <|
    .cons (Column.readBy_of_decode fun _ _ => text?_eq_some) <|
    .cons (Column.readBy_of_decode fun _ _ => optionalText?_eq_some) .nil
  nodup := by decide
  get_put := by simp [iniColumn, columns, Column.written]
  get_put_ne := by simp [iniColumn, columns, Column.written]
  ext := by
    rintro ⟨⟩ ⟨⟩ h
    simpa [iniColumn, columns, Column.written] using h

namespace Settings

/-! ## Documents -/

/-- When an object is a settings document whose runtime options, if any, are an object too. -/
def Legible (members : Members) : Prop :=
  Json.Legible columns members ∧ (valuesOf "ini" members).length ≤ 1 ∧
    ∀ inner, .object inner ∈ valuesOf "ini" members → Json.Legible RuntimeOptions.columns inner

/-- The settings that such a document writes. -/
def Filled (members : Members) (s : Settings) : Prop :=
  Json.Filled columns {} members s ∧
    (valuesOf "ini" members = [] ∧ s.ini = {} ∨
      ∃ inner, valuesOf "ini" members = [.object inner] ∧
        Json.Filled RuntimeOptions.columns {} inner s.ini)

/-- Documents that differ by the order of their members and by members with other keys, at either
level. -/
inductive Rearranged : Members → Members → Prop
  | members {xs ys : Members} : Json.Rearranged (fields.map (·.key)) xs ys → Rearranged xs ys
  | ini {front back xs ys : Members} :
      Json.Rearranged (RuntimeOptions.fields.map (·.key)) xs ys →
      Rearranged (front ++ (some "ini", .object xs) :: back)
        (front ++ (some "ini", .object ys) :: back)
  | trans {xs ys zs : Members} : Rearranged xs ys → Rearranged ys zs → Rearranged xs zs

section
variable {members : Members}

/-- The runtime options of a document are objects. -/
def IniObject (members : Members) : Prop :=
  ∀ v ∈ valuesOf "ini" members, ∃ inner, v = .object inner

theorem iniColumn_fits_iff (h : IniObject members) :
    iniColumn.Fits members ↔ (valuesOf "ini" members).length ≤ 1 ∧
      ∀ inner, .object inner ∈ valuesOf "ini" members →
        Json.Legible RuntimeOptions.columns inner := by
  have hobject : ∀ inner, (∃ o, RuntimeOptions.ofJson? (.object inner) = some o) ↔
      Json.Legible RuntimeOptions.columns inner :=
    record?_object_isSome_iff RuntimeOptions.lawful {}
  refine and_congr_right fun _ =>
    ⟨fun hv inner hi => (hobject inner).1 (hv _ hi), fun hv v hi => ?_⟩
  obtain ⟨inner, rfl⟩ := h v hi
  exact (hobject inner).2 (hv inner hi)

theorem ofJson?_isSome_iff (h : IniObject members) :
    (∃ s, ofJson? (.object members) = some s) ↔ Legible members := by
  rw [ofJson?, record?_object_isSome_iff lawful, Json.Legible, List.forall_mem_cons,
    iniColumn_fits_iff h, Legible, Json.Legible]
  tauto

theorem filled_of_ofJson? (h : IniObject members) {s : Settings}
    (hs : ofJson? (.object members) = some s) : Filled members s := by
  obtain ⟨-, hall⟩ := (record?_object_iff lawful {} s members).1 hs
  rw [Json.Filled, List.forall_mem_cons] at hall
  refine ⟨hall.2, ?_⟩
  rcases hall.1 with hn | ⟨v, hv, hm⟩
  · exact Or.inl hn
  · obtain ⟨inner, rfl⟩ := h v (by rw [show valuesOf "ini" members = [v] from hv]; simp)
    exact Or.inr ⟨inner, hv, ((record?_object_iff RuntimeOptions.lawful {} s.ini inner).1 hm).2⟩

theorem ini_ne_key : ∀ c ∈ columns, some "ini" ≠ some c.key := by
  simp [columns, Column.written]

/-- The runtime options may be any value that means the same. -/
theorem ofJson?_ini_congr {v w : Value}
    (hi : RuntimeOptions.ofJson? v = RuntimeOptions.ofJson? w) (front back : Members) :
    ofJson? (.object (front ++ (some "ini", v) :: back)) =
      ofJson? (.object (front ++ (some "ini", w) :: back)) := by
  refine record?_congr lawful {} (by simp [HasKeys, or_imp, forall_and]) fun c hc x => ?_
  refine Column.stands_replace (fun hk => ?_) front back {} x
  -- The options are in no other column.
  rcases List.mem_cons.1 hc with rfl | hc
  · intro ini
    simp only [iniColumn, hi]
  · exact absurd hk (ini_ne_key c hc)

theorem ofJson?_rearranged {xs ys : Members} (h : Rearranged xs ys) :
    ofJson? (.object xs) = ofJson? (.object ys) := by
  induction h with
  | members hr => exact record?_rearranged lawful {} hr
  | @ini front back _ _ hr =>
    exact ofJson?_ini_congr (record?_rearranged RuntimeOptions.lawful {} hr) front back
  | trans _ _ ih₁ ih₂ => exact ih₁.trans ih₂

/-- Of a file that holds a document, the decoder alone decides. -/
theorem load_of_value {fs : FileSystem} {path : Bytes} {text : String} {v : Value}
    (hr : fs.readText path = .ok text) (hp : Json.parse? text = some v) :
    (load fs path).1 = match ofJson? v with
      | some s => .ok s
      | none => .error (.parse path) := by
  rw [load, hr]
  simp only [hp, Option.bind_some]
  cases ofJson? v <;> rfl

theorem load_eq_ok_iff {fs : FileSystem} {path : Bytes} {text : String} {s : Settings}
    (hr : fs.readText path = .ok text) (hp : Json.parse? text = some (.object members)) :
    (load fs path).1 = .ok s ↔ ofJson? (.object members) = some s := by
  rw [load_of_value hr hp]
  cases ofJson? (.object members) <;> simp

end

theorem toOption_eq_some_iff {r : Except Error Settings} {s : Settings} :
    r.toOption = some s ↔ r = .ok s := by
  cases r <;> simp [Except.toOption]

/-- **Settings objects.** A settings file that holds an object, with the runtime options as an
object if they are there, is read if and only if, at both levels, every key is a text, no key of a
field occurs twice, and each has a value of its field. Every field is then what its key's value
means, or its default if the key does not occur. A document that differs by the order of its
members, or by members with other keys, at either level, gives the same settings or is refused as
well.

That every key is a text (`HasKeys`) goes beyond ordinary documents: only an escaped lone surrogate
makes a key that is none, and a document without one has it. -/
theorem load_object (fs : FileSystem) (path : Bytes) (text : String) (members : Members)
    (hr : fs.readText path = .ok text) (hp : Json.parse? text = some (.object members))
    (hi : IniObject members) :
    ((∃ s, (load fs path).1 = .ok s) ↔ Legible members) ∧
      (∀ s, (load fs path).1 = .ok s → Filled members s) ∧
      ∀ fs' path' text' members',
        fs'.readText path' = .ok text' → Json.parse? text' = some (.object members') →
        Rearranged members members' → (load fs' path').1.toOption = (load fs path).1.toOption := by
  have hl : ∀ s, (load fs path).1 = .ok s ↔ ofJson? (.object members) = some s :=
    fun _ => load_eq_ok_iff hr hp
  refine ⟨?_, fun s hs => filled_of_ofJson? hi ((hl s).1 hs), ?_⟩
  · simp only [hl]
    exact ofJson?_isSome_iff hi
  · intro fs' path' text' members' hr' hp' hm
    refine Option.ext fun s => ?_
    rw [toOption_eq_some_iff, toOption_eq_some_iff, hl, load_eq_ok_iff hr' hp',
      ofJson?_rearranged hm]

/-- Part of the settings in one file, and in another the other way round with a member more. -/
theorem load_object_partial :
    let text := "\x7b\"prompt\":\"> \",\"ini\":\x7b\"html_errors\":true\x7d\x7d"
    let other := "\x7b\"ini\":\x7b\"html_errors\":true,\"x\":[1.5]\x7d,\"prompt\":\"> \"\x7d"
    let files : FileSystem :=
      ⟨[([[0x61]], .file (Utf8.encode text)), ([[0x62]], .file (Utf8.encode other))], []⟩
    let members : Members :=
      [(some "prompt", .string "> "), (some "ini", .object [(some "html_errors", .bool true)])]
    ∃ s, (load files [0x61]).1 = .ok s ∧ Filled members s ∧
      (load files [0x62]).1.toOption = some s := by
  intro text other files members
  have hread {name : Bytes} {content : String}
      (hc : files.held? name = some (Utf8.encode content)) :
      files.readText name = .ok content := by
    rw [FileSystem.readText, FileSystem.read_of_held hc]
    simp only [Utf8.decode_encode]
  have hheld {name : Bytes} {content : String} (hn : name = [0x61] ∧ content = text ∨
      name = [0x62] ∧ content = other) : files.held? name = some (Utf8.encode content) := by
    have hl : files.locate true name = .ok ([name], some (.file (Utf8.encode content))) := by
      refine FileSystem.locate_ok_iff.2 ?_
      rcases hn with ⟨rfl, rfl⟩ | ⟨rfl, rfl⟩ <;>
        exact ⟨by decide, .arrive (by decide) rfl ⟨by simp, by simp⟩⟩
    unfold FileSystem.held?
    rw [hl]
    rfl
  have hp : Json.parse? text = some (.object members) := by
    have ht : Json.tokens? text = some [.openObject, .string "prompt", .colon, .string "> ", .comma,
        .string "ini", .colon, .openObject, .string "html_errors", .colon, .bool true,
        .closeObject, .closeObject] := by decide +kernel
    rw [Json.parse?, ht]
    rfl
  have hp' : Json.parse? other = some (.object [(some "ini", .object [(some "html_errors",
      .bool true), (some "x", .array [.number .decimal])]), (some "prompt", .string "> ")]) := by
    have ht : Json.tokens? other = some [.openObject, .string "ini", .colon, .openObject,
        .string "html_errors", .colon, .bool true, .comma, .string "x", .colon, .openArray,
        .number .decimal, .closeArray, .closeObject, .comma, .string "prompt", .colon,
        .string "> ", .closeObject] := by decide +kernel
    rw [Json.parse?, ht]
    rfl
  have h := load_object files [0x61] text members (hread (hheld (Or.inl ⟨rfl, rfl⟩))) hp
    (by simp [IniObject, members, valuesOf])
  obtain ⟨s, hs⟩ := h.1.2 (by
    simp [Legible, members, valuesOf, Json.Legible, HasKeys, columns, Column.written,
      Column.Fits, writtenText, RuntimeOptions.columns])
  refine ⟨s, hs, h.2.1 s hs, ?_⟩
  rw [h.2.2 files [0x62] other _ (hread (hheld (Or.inr ⟨rfl, rfl⟩))) hp' ?_, hs]
  · rfl
  · -- The options take the new member, and then the two change places.
    exact .trans (@Rearranged.ini [_] [] _ _ (@Json.Rearranged.insert _ "x" _ [_] [] (by decide)))
      (.members (.perm (List.Perm.swap _ _ [])))

end Settings

end ScriptHost
