import Mathlib.Data.List.Forall2
import Mathlib.Data.List.Nodup
import ScriptHost.Settings.Decode

/-!
# Records read from the members of an object

A record is read member by member, in the order they were written. What comes of it can be said
without any order: each column of the record by itself.

**Columns (`Column`).** The key of a field, what its values mean, and where the field stands in the
record. A column fits the members of an object if its key occurs at most once, with a value that
means something (`Column.Fits`). It then stands for what that value means, or for the default if
the key does not occur (`Column.Stands`).

**Laws (`Lawful`).** The fields of a record read its columns: each sets its own column to what the
value means and leaves the others alone, and the columns are all there is to the record.

**Keys.** A key that is no text, with half of a surrogate pair standing alone, is refused wherever
it occurs (`HasKeys`).

**Results.**
* `setByKey_eq_some_iff`: which record is read, for columns that may have been set before.
* `record?_object_iff`, `record?_object_isSome_iff`: which record an object writes, and when it
  writes one.
* `record?_rearranged`: neither the order of the members nor those with other keys matter.
-/
namespace ScriptHost.Json

abbrev Members := List (Option String × Value)

/-- The values that a key has, in order. -/
def valuesOf (key : String) (members : Members) : List Value :=
  members.filterMap fun m => if m.1 = some key then some m.2 else none

/-- Every key is a text. -/
def HasKeys (members : Members) : Prop :=
  ∀ m ∈ members, m.1.isSome = true

/-- A field of a record `α`: its key, what its values mean, and where it stands in the record. -/
structure Column (α : Type) where
  key : String
  Field : Type
  means : Value → Field → Prop
  get : α → Field
  put : α → Field → α

variable {α : Type}

namespace Column

/-- The key occurs at most once, with a value of the field. -/
def Fits (c : Column α) (members : Members) : Prop :=
  (valuesOf c.key members).length ≤ 1 ∧ ∀ v ∈ valuesOf c.key members, ∃ x, c.means v x

/-- What the field is: what its key's value means, or the default if the key does not occur. -/
def Stands (c : Column α) (default : α) (members : Members) (x : c.Field) : Prop :=
  valuesOf c.key members = [] ∧ x = c.get default ∨
    ∃ v, valuesOf c.key members = [v] ∧ c.means v x

/-- The record field `f` sets the column to what the value means. -/
structure ReadBy (c : Column α) (f : RecordField α) : Prop where
  key : f.key = c.key
  set : ∀ v r r', f.set v r = some r' ↔ ∃ x, c.means v x ∧ c.put r x = r'

theorem readBy_of_decode {c : Column α} {decode : Value → Option c.Field}
    (h : ∀ v x, decode v = some x ↔ c.means v x) :
    c.ReadBy ⟨c.key, fun v r => (decode v).map (c.put r)⟩ :=
  ⟨rfl, fun v r r' => by simp only [Option.map_eq_some_iff, h]⟩

theorem fits_iff (c : Column α) (default : α) (members : Members) :
    c.Fits members ↔ ∃ x, c.Stands default members x := by
  unfold Fits Stands
  cases hv : valuesOf c.key members with
  | nil => simp
  | cons v rest => cases rest <;> simp

end Column

/-- Every column stands for what it has to. -/
def Filled (columns : List (Column α)) (default : α) (members : Members) (r : α) : Prop :=
  ∀ c ∈ columns, c.Stands default members (c.get r)

/-- The members make `s` of the record `r`: every column stands for what it has to, and those
`seen` before do not occur again. -/
def Completes (columns : List (Column α)) (seen : List String) (r : α) (members : Members)
    (s : α) : Prop :=
  ∀ c ∈ columns, (c.key ∈ seen → valuesOf c.key members = []) ∧ c.Stands r members (c.get s)

/-- Every key is a text and every column fits. -/
def Legible (columns : List (Column α)) (members : Members) : Prop :=
  HasKeys members ∧ ∀ c ∈ columns, c.Fits members

/-- The fields of a record read these columns, and there is nothing else to the record. -/
structure Lawful (columns : List (Column α)) (fields : List (RecordField α)) : Prop where
  reads : List.Forall₂ Column.ReadBy columns fields
  nodup : (columns.map (·.key)).Nodup
  get_put : ∀ c ∈ columns, ∀ r x, c.get (c.put r x) = x
  get_put_ne : ∀ c ∈ columns, ∀ d ∈ columns, d.key ≠ c.key → ∀ r x, d.get (c.put r x) = d.get r
  ext : ∀ r s, (∀ c ∈ columns, c.get r = c.get s) → r = s

/-! ## The values of a key -/

section
variable {key : String} {v : Value} {members : Members}

theorem hasKeys_cons {k : Option String} :
    HasKeys ((k, v) :: members) ↔ k.isSome = true ∧ HasKeys members :=
  List.forall_mem_cons

theorem valuesOf_cons_self :
    valuesOf key ((some key, v) :: members) = v :: valuesOf key members := by
  simp [valuesOf]

theorem valuesOf_cons_ne {k : Option String} (h : k ≠ some key) :
    valuesOf key ((k, v) :: members) = valuesOf key members := by
  simp [valuesOf, h]

theorem valuesOf_append (xs ys : Members) :
    valuesOf key (xs ++ ys) = valuesOf key xs ++ valuesOf key ys :=
  List.filterMap_append

end

namespace Column

variable {c : Column α} {default : α} {v : Value} {members : Members} {x : c.Field}

theorem stands_of_nil (c : Column α) {x : c.Field} (h : valuesOf c.key members = []) :
    c.Stands default members x ↔ x = c.get default := by
  simp [Stands, h]

theorem stands_cons_self (c : Column α) {x : c.Field} :
    c.Stands default ((some c.key, v) :: members) x ↔
      valuesOf c.key members = [] ∧ c.means v x := by
  simp [Stands, valuesOf_cons_self]

theorem stands_cons_ne {key : String} (h : c.key ≠ key) :
    c.Stands default ((some key, v) :: members) x ↔ c.Stands default members x := by
  rw [Stands, Stands, valuesOf_cons_ne (by simpa using h.symm)]

theorem stands_of_get_eq {r r' : α} (h : c.get r = c.get r') :
    c.Stands r members x ↔ c.Stands r' members x := by
  rw [Stands, Stands, h]

end Column

/-! ## The record that is read -/

section
variable {columns : List (Column α)} {fields : List (RecordField α)}

theorem map_key (h : List.Forall₂ Column.ReadBy columns fields) :
    fields.map (·.key) = columns.map (·.key) := by
  induction h with
  | nil => rfl
  | cons hf _ ih => rw [List.map_cons, List.map_cons, hf.key, ih]

theorem find?_eq_none {key : String} (h : List.Forall₂ Column.ReadBy columns fields)
    (hk : ∀ c ∈ columns, c.key ≠ key) : fields.find? (·.key = key) = none := by
  induction h with
  | nil => rfl
  | @cons c f _ _ hf _ ih =>
    rw [List.forall_mem_cons] at hk
    rw [List.find?_cons_of_neg (by simpa [hf.key] using hk.1)]
    exact ih hk.2

theorem find?_key (hn : (fields.map (·.key)).Nodup) {f : RecordField α} (hf : f ∈ fields) :
    fields.find? (·.key = f.key) = some f := by
  induction fields with
  | nil => cases hf
  | cons g rest ih =>
    rw [List.map_cons, List.nodup_cons] at hn
    rcases List.mem_cons.1 hf with rfl | hf
    · rw [List.find?_cons_of_pos (by simp)]
    · have hne : g.key ≠ f.key := fun e => hn.1 (e ▸ List.mem_map_of_mem hf)
      rw [List.find?_cons_of_neg (by simpa using hne)]
      exact ih hn.2 hf

theorem exists_readBy (h : List.Forall₂ Column.ReadBy columns fields) {c : Column α}
    (hc : c ∈ columns) : ∃ f ∈ fields, c.ReadBy f := by
  induction h with
  | nil => cases hc
  | @cons d f _ _ hf _ ih =>
    rcases List.mem_cons.1 hc with rfl | hc
    · exact ⟨f, List.mem_cons_self, hf⟩
    · obtain ⟨g, hg, hr⟩ := ih hc
      exact ⟨g, List.mem_cons_of_mem _ hg, hr⟩

theorem Lawful.nodup_fields (h : Lawful columns fields) : (fields.map (·.key)).Nodup := by
  rw [map_key h.reads]
  exact h.nodup

theorem Lawful.find?_eq_some (h : Lawful columns fields) {c : Column α} (hc : c ∈ columns) :
    ∃ f, fields.find? (·.key = c.key) = some f ∧ c.ReadBy f := by
  obtain ⟨f, hf, hr⟩ := exists_readBy h.reads hc
  exact ⟨f, hr.key ▸ find?_key h.nodup_fields hf, hr⟩

theorem Lawful.eq_of_key (h : Lawful columns fields) {c d : Column α} (hc : c ∈ columns)
    (hd : d ∈ columns) (hk : c.key = d.key) : c = d :=
  List.inj_on_of_nodup_map h.nodup hc hd hk

/-- There is a record with any given values in its columns. -/
theorem Lawful.exists_record (h : Lawful columns fields) (r : α)
    {P : (c : Column α) → c.Field → Prop} (hP : ∀ c ∈ columns, ∃ x, P c x) :
    ∃ s, ∀ c ∈ columns, P c (c.get s) := by
  -- The columns are put in one after the other, none of which disturbs those before it.
  suffices hcs : ∀ cs ⊆ columns, (cs.map (·.key)).Nodup → ∃ s, ∀ c ∈ cs, P c (c.get s) from
    hcs columns (List.Subset.refl _) h.nodup
  intro cs hsub hn
  induction cs with
  | nil => exact ⟨r, by simp⟩
  | cons d cs ih =>
    rw [List.map_cons, List.nodup_cons] at hn
    rw [List.cons_subset] at hsub
    obtain ⟨s, hs⟩ := ih hsub.2 hn.2
    obtain ⟨x, hx⟩ := hP d hsub.1
    refine ⟨d.put s x, ?_⟩
    rw [List.forall_mem_cons]
    refine ⟨by rwa [h.get_put d hsub.1], fun c hc => ?_⟩
    have hne : c.key ≠ d.key := fun e => hn.1 (e ▸ List.mem_map_of_mem hc)
    rw [h.get_put_ne d hsub.1 c (hsub.2 hc) hne]
    exact hs c hc

/-- A member with a key of the record sets its column, which must not have been set before. -/
theorem setByKey_cons_of_mem (h : Lawful columns fields) {d : Column α} (hd : d ∈ columns)
    (seen : List String) (r s : α) (v : Value) (rest : Members) :
    setByKey fields seen r ((some d.key, v) :: rest) = some s ↔
      d.key ∉ seen ∧ ∃ x, d.means v x ∧
        setByKey fields (d.key :: seen) (d.put r x) rest = some s := by
  obtain ⟨f, hf, hr⟩ := h.find?_eq_some hd
  rw [setByKey, hf]
  by_cases hs : d.key ∈ seen
  · simp [hs]
  · have hset := hr.set v r
    cases hx : f.set v r with
    | none =>
      have hn : ∀ x, ¬ d.means v x := by
        intro x hm
        have := (hset (d.put r x)).2 ⟨x, hm, rfl⟩
        simp [hx] at this
      simp [hs, hx, hn]
    | some r' =>
      obtain ⟨x, hm, rfl⟩ := (hset r').1 hx
      -- The value means one thing only: the record it leads to tells what.
      have hone : ∀ y, d.means v y → y = x := by
        intro y hy
        have he := (hset (d.put r y)).2 ⟨y, hy, rfl⟩
        rw [hx, Option.some.injEq] at he
        rw [← h.get_put d hd r y, ← he, h.get_put d hd]
      constructor
      · intro hrest
        exact ⟨hs, x, hm, by simpa [hs, hx] using hrest⟩
      · rintro ⟨-, y, hy, hrest⟩
        obtain rfl := hone y hy
        simpa [hs, hx] using hrest

/-- A member with a key of the record is the only one of its column, which stands for it from
then on. -/
theorem completes_cons_of_mem (h : Lawful columns fields) {d : Column α} (hd : d ∈ columns)
    (seen : List String) (r s : α) (v : Value) (rest : Members) :
    Completes columns seen r ((some d.key, v) :: rest) s ↔
      d.key ∉ seen ∧ ∃ x, d.means v x ∧
        Completes columns (d.key :: seen) (d.put r x) rest s := by
  constructor
  · intro hall
    obtain ⟨hseen, hst⟩ := hall d hd
    obtain ⟨hv, hm⟩ := d.stands_cons_self.1 hst
    have hs : d.key ∉ seen := fun hin => by simpa [valuesOf_cons_self] using hseen hin
    refine ⟨hs, d.get s, hm, fun c hc => ?_⟩
    by_cases hcd : c.key = d.key
    · obtain rfl := h.eq_of_key hc hd hcd
      exact ⟨fun _ => hv, (c.stands_of_nil hv).2 (h.get_put c hd _ _).symm⟩
    · obtain ⟨hv, hst⟩ := hall c hc
      rw [Column.stands_cons_ne hcd] at hst
      rw [valuesOf_cons_ne (by simpa using Ne.symm hcd)] at hv
      rw [Column.stands_of_get_eq (h.get_put_ne d hd c hc hcd r _)]
      exact ⟨fun hin => hv ((List.mem_cons.1 hin).resolve_left hcd), hst⟩
  · rintro ⟨hs, x, hm, hall⟩ c hc
    obtain ⟨hv, hst⟩ := hall c hc
    by_cases hcd : c.key = d.key
    · obtain rfl := h.eq_of_key hc hd hcd
      have hv := hv List.mem_cons_self
      have hx : c.get s = x := by
        rw [(c.stands_of_nil hv).1 hst, h.get_put c hd]
      exact ⟨fun hin => absurd hin hs, c.stands_cons_self.2 ⟨hv, hx ▸ hm⟩⟩
    · rw [Column.stands_cons_ne hcd, valuesOf_cons_ne (by simpa using Ne.symm hcd)]
      rw [Column.stands_of_get_eq (h.get_put_ne d hd c hc hcd r x)] at hst
      exact ⟨fun hin => hv (List.mem_cons_of_mem _ hin), hst⟩

/-- A member with another key makes no difference. -/
theorem completes_cons_of_ne {key : String} (hne : ∀ c ∈ columns, c.key ≠ key)
    (seen : List String) (r s : α) (v : Value) (rest : Members) :
    Completes columns seen r ((some key, v) :: rest) s ↔ Completes columns seen r rest s := by
  refine forall₂_congr fun c hc => ?_
  rw [Column.stands_cons_ne (hne c hc), valuesOf_cons_ne (by simpa using (hne c hc).symm)]

/-- The record that is read, whichever columns have been set before. -/
theorem setByKey_eq_some_iff (h : Lawful columns fields) (seen : List String) (r s : α)
    (members : Members) :
    setByKey fields seen r members = some s ↔
      HasKeys members ∧ Completes columns seen r members s := by
  induction members generalizing seen r with
  | nil =>
    simp only [setByKey, Option.some.injEq, HasKeys, Completes, Column.Stands, valuesOf]
    constructor
    · rintro rfl
      simp
    · rintro ⟨-, hs⟩
      exact (h.ext s r fun c hc => by simpa using (hs c hc).2).symm
  | cons m rest ih =>
    obtain ⟨k, v⟩ := m
    rw [hasKeys_cons]
    cases k with
    | none => simp [setByKey]
    | some key =>
      by_cases hk : ∃ d ∈ columns, d.key = key
      · obtain ⟨d, hd, rfl⟩ := hk
        rw [setByKey_cons_of_mem h hd, completes_cons_of_mem h hd]
        simp only [ih, Option.isSome_some, true_and]
        tauto
      · have hne : ∀ c ∈ columns, c.key ≠ key := fun c hc e => hk ⟨c, hc, e⟩
        rw [setByKey, find?_eq_none h.reads hne, completes_cons_of_ne hne]
        simp only [ih, Option.isSome_some, true_and]

/-- The record that an object writes. -/
theorem record?_object_iff (h : Lawful columns fields) (default s : α) (members : Members) :
    record? fields default (.object members) = some s ↔
      HasKeys members ∧ Filled columns default members s := by
  rw [record?, setByKey_eq_some_iff h]
  simp [Completes, Filled]

/-- When an object writes a record. -/
theorem record?_object_isSome_iff (h : Lawful columns fields) (default : α) (members : Members) :
    (∃ s, record? fields default (.object members) = some s) ↔ Legible columns members := by
  simp only [record?_object_iff h, exists_and_left, Legible]
  refine and_congr_right fun _ => ⟨?_, fun hf => ?_⟩
  · rintro ⟨s, hs⟩ c hc
    exact (c.fits_iff default members).2 ⟨_, hs c hc⟩
  · exact h.exists_record default fun c hc => (c.fits_iff default members).1 (hf c hc)

/-! ## Rearranged members -/

/-- Members that differ by their order and by members with other keys. -/
inductive Rearranged (keys : List String) : Members → Members → Prop
  | perm {xs ys : Members} : xs.Perm ys → Rearranged keys xs ys
  | insert {key : String} {v : Value} {front back : Members} : key ∉ keys →
      Rearranged keys (front ++ back) (front ++ (some key, v) :: back)
  | symm {xs ys : Members} : Rearranged keys xs ys → Rearranged keys ys xs
  | trans {xs ys zs : Members} :
      Rearranged keys xs ys → Rearranged keys ys zs → Rearranged keys xs zs

theorem Column.stands_perm {c : Column α} {xs ys : Members}
    (h : (valuesOf c.key xs).Perm (valuesOf c.key ys)) (default : α) (x : c.Field) :
    c.Stands default xs x ↔ c.Stands default ys x := by
  have hnil : valuesOf c.key xs = [] ↔ valuesOf c.key ys = [] := by
    rw [← List.perm_nil, ← List.perm_nil]
    exact ⟨h.symm.trans, h.trans⟩
  have hone : ∀ v, valuesOf c.key xs = [v] ↔ valuesOf c.key ys = [v] := fun v => by
    rw [← List.perm_singleton, ← List.perm_singleton]
    exact ⟨h.symm.trans, h.trans⟩
  simp only [Column.Stands, hnil, hone]

/-- A value may be written in any way that means the same. -/
theorem Column.stands_replace {c : Column α} {k : Option String} {v w : Value}
    (h : k = some c.key → ∀ x, c.means v x ↔ c.means w x) (front back : Members)
    (default : α) (x : c.Field) :
    c.Stands default (front ++ (k, v) :: back) x ↔
      c.Stands default (front ++ (k, w) :: back) x := by
  unfold Column.Stands
  by_cases hk : k = some c.key
  · subst hk
    have hone : ∀ (xs ys : List Value) (u z : Value),
        xs ++ u :: ys = [z] ↔ xs = [] ∧ ys = [] ∧ u = z := fun xs ys u z => by
      rw [List.append_eq_singleton_iff]
      simp [and_comm]
    simp only [valuesOf_append, valuesOf_cons_self, hone, List.append_eq_nil_iff,
      reduceCtorEq, and_false, false_and, false_or]
    constructor
    · rintro ⟨u, ⟨hf, hb, rfl⟩, hm⟩
      exact ⟨w, ⟨hf, hb, rfl⟩, (h rfl x).1 hm⟩
    · rintro ⟨u, ⟨hf, hb, rfl⟩, hm⟩
      exact ⟨v, ⟨hf, hb, rfl⟩, (h rfl x).2 hm⟩
  · simp only [valuesOf_append, valuesOf_cons_ne hk]

/-- Objects in which every column stands for the same write the same record. -/
theorem record?_congr (h : Lawful columns fields) (default : α) {xs ys : Members}
    (hk : HasKeys xs ↔ HasKeys ys)
    (hc : ∀ c ∈ columns, ∀ x, c.Stands default xs x ↔ c.Stands default ys x) :
    record? fields default (.object xs) = record? fields default (.object ys) := by
  refine Option.ext fun s => ?_
  simp only [record?_object_iff h, hk, Filled]
  exact and_congr_right fun _ => forall₂_congr fun c hm => hc c hm _

theorem record?_rearranged (h : Lawful columns fields) (default : α) {xs ys : Members}
    (hr : Rearranged (fields.map (·.key)) xs ys) :
    record? fields default (.object xs) = record? fields default (.object ys) := by
  induction hr with
  | perm hp =>
    refine record?_congr h default ?_ fun c _ => Column.stands_perm (hp.filterMap _) default
    exact ⟨fun hk m hm => hk m (hp.mem_iff.2 hm), fun hk m hm => hk m (hp.mem_iff.1 hm)⟩
  | @insert key v front back hn =>
    refine record?_congr h default (by simp [HasKeys, or_imp, forall_and]) fun c hc => ?_
    have hne : some key ≠ some c.key := fun e => hn (by
      rw [Option.some.inj e, map_key h.reads]
      exact List.mem_map_of_mem hc)
    simp only [Column.Stands, valuesOf_append, valuesOf_cons_ne hne, implies_true]
  | symm _ ih => exact ih.symm
  | trans _ _ ih₁ ih₂ => exact ih₁.trans ih₂

end

end ScriptHost.Json
