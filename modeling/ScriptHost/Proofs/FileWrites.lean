import ScriptHost.FileSystem.File

/-!
# Writing a file and finding it again

What a change of the file at a path leaves at that path.

**Arriving (`Leads`).** The walks that arrive, one rule for each thing that a name can be: a name
that does not count, the way up, the last name, a directory, a link. `walk_ok_iff` ties them to
`walk`, so that what holds of all of them is shown by induction on the rules.

**The file at a path (`held?`).** What the file that a path is opened for holds: no file yet, or
one with some bytes. Directories and devices hold nothing, nor does a path that is refused.

**Results.**
* `Leads.set`: a file that is put where a walk arrives is where the same walk arrives then.
* `held_modify`: a file that can be opened can be changed, and holds what the change made of it.
* `held_of_modified`: what is found behind a change is what the change made of the file.
* `read_of_held`: a reader finds what the file holds.
-/
namespace ScriptHost.FileSystem

/-! ## Nodes -/

theorem lookup_filter_ne {l m : Location} (h : m ≠ l) (nodes : List (Location × Node)) :
    (nodes.filter (·.1 ≠ l)).lookup m = nodes.lookup m := by
  induction nodes with
  | nil => rfl
  | cons x rest ih =>
    by_cases hx : x.1 = l
    · have hm : (m == x.1) = false := by rw [hx]; simpa using h
      rw [List.filter_cons_of_neg (by simpa using hx), ih, List.lookup_cons, hm]
    · rw [List.filter_cons_of_pos (by simpa using hx), List.lookup_cons, List.lookup_cons, ih]

theorem node_set_self (fs : FileSystem) {loc : Location} (h : loc ≠ []) (node : Node) :
    (fs.set loc node).node? loc = some node := by
  simp [node?, set, h]

theorem node_set_ne (fs : FileSystem) {loc there : Location} (h : there ≠ loc) (node : Node) :
    (fs.set loc node).node? there = fs.node? there := by
  have hm : (there == loc) = false := by simpa using h
  unfold node? set
  rw [List.lookup_cons, hm, lookup_filter_ne h]

/-! ## Walks that arrive -/

/-- A name that counts and is not too long. -/
def Proper (name : Bytes) : Prop :=
  (name ≠ [] ∧ name ≠ [Path.dot]) ∧ name ≠ [Path.dot, Path.dot] ∧ name.length ≤ maxNameLength

instance (name : Bytes) : Decidable (Proper name) :=
  inferInstanceAs (Decidable ((_ ∧ _) ∧ _ ∧ _))

/-- What a walk does not go through: nothing, or a node that is no directory and no link. -/
def IsEnd (n : Option Node) : Prop :=
  n ≠ some .directory ∧ ∀ target, n ≠ some (.link target)

/-- `Leads fs creating links here names loc n`: from the directory `here`, the names lead to the
location `loc` and the node `n` there. -/
inductive Leads (fs : FileSystem) (creating : Bool) :
    Nat → Location → List Bytes → Location → Option Node → Prop
  | here {links : Nat} {here : Location} : Leads fs creating links here [] here (some .directory)
  | stay {links : Nat} {here loc : Location} {name : Bytes} {rest : List Bytes}
      {n : Option Node} :
      name = [] ∨ name = [Path.dot] → Leads fs creating links here rest loc n →
      Leads fs creating links here (name :: rest) loc n
  | up {links : Nat} {here loc : Location} {rest : List Bytes} {n : Option Node} :
      Leads fs creating links here.dropLast rest loc n →
      Leads fs creating links here ([Path.dot, Path.dot] :: rest) loc n
  | arrive {links : Nat} {here : Location} {name : Bytes} {n : Option Node} :
      Proper name → fs.node? (here ++ [name]) = n → IsEnd n →
      Leads fs creating links here [name] (here ++ [name]) n
  | enter {links : Nat} {here loc : Location} {name : Bytes} {rest : List Bytes}
      {n : Option Node} :
      Proper name → (creating && rest = [[]]) = false →
      fs.node? (here ++ [name]) = some .directory →
      Leads fs creating links (here ++ [name]) rest loc n →
      Leads fs creating links here (name :: rest) loc n
  | follow {links : Nat} {here loc : Location} {name target : Bytes} {rest : List Bytes}
      {n : Option Node} :
      Proper name → (creating && rest = [[]]) = false →
      fs.node? (here ++ [name]) = some (.link target) →
      Leads fs creating links (origin target here) (names target ++ rest) loc n →
      Leads fs creating (links + 1) here (name :: rest) loc n

variable {fs : FileSystem} {creating : Bool} {links : Nat} {here loc : Location}
  {ns : List Bytes} {n : Option Node}

theorem proper_of_not {name : Bytes}
    (h : ¬ (decide (name = []) || decide (name = [Path.dot])) = true)
    (hu : name ≠ [Path.dot, Path.dot]) (hl : ¬ maxNameLength < name.length) : Proper name :=
  ⟨by simpa using h, hu, Nat.le_of_not_lt hl⟩

theorem leads_of_walk (h : fs.walk creating links here ns = .ok (loc, n)) :
    Leads fs creating links here ns loc n := by
  fun_induction walk fs creating links here ns with
  | case1 => cases h; exact .here
  | case2 links here name rest hn ih => exact .stay (by simpa using hn) (ih h)
  | case3 links here rest _ ih => exact .up (ih h)
  | case6 links here name hn hu hl there hnode =>
    simp only [Except.ok.injEq, Prod.mk.injEq] at h
    obtain ⟨rfl, rfl⟩ := h
    exact .arrive (proper_of_not hn hu hl) hnode ⟨by simp, by simp⟩
  | case8 links here name rest hn hu hc hl there hnode ih =>
    exact .enter (proper_of_not hn hu hl) (by simpa using hc) hnode (ih h)
  | case10 here name rest hn hu hc hl there target hnode more ih =>
    exact .follow (proper_of_not hn hu hl) (by simpa using hc) hnode (ih h)
  | case11 links here name hn hu hl there node hd hk hnode =>
    simp only [Except.ok.injEq, Prod.mk.injEq] at h
    obtain ⟨rfl, rfl⟩ := h
    exact .arrive (proper_of_not hn hu hl) hnode ⟨by simpa using hd, by simpa using hk⟩
  | _ => cases h

theorem walk_of_leads (h : Leads fs creating links here ns loc n) :
    fs.walk creating links here ns = .ok (loc, n) := by
  induction h with
  | here => simp [walk]
  | stay hn _ ih => simp [walk, hn, ih]
  | up _ ih => simp [walk, ih]
  | @arrive links here name n hp hnode he =>
    obtain ⟨hn, hu, hl⟩ := hp
    rw [walk, if_neg (by simpa using hn), if_neg hu, if_neg (by simp), if_neg (by omega)]
    simp only [hnode]
    cases n with
    | none => rfl
    | some node =>
      cases node with
      | directory => exact absurd rfl he.1
      | link target => exact absurd rfl (he.2 target)
      | _ => rfl
  | enter hp hc hnode _ ih =>
    obtain ⟨hn, hu, hl⟩ := hp
    rw [walk, if_neg (by simpa using hn), if_neg hu, if_neg (by simpa using hc), if_neg (by omega)]
    simp only [hnode, ih]
  | follow hp hc hnode _ ih =>
    obtain ⟨hn, hu, hl⟩ := hp
    rw [walk, if_neg (by simpa using hn), if_neg hu, if_neg (by simpa using hc), if_neg (by omega)]
    simp only [hnode, ih]

theorem walk_ok_iff :
    fs.walk creating links here ns = .ok (loc, n) ↔ Leads fs creating links here ns loc n :=
  ⟨leads_of_walk, walk_of_leads⟩

/-- Where no directory is reached, the location holds what is reached. -/
theorem Leads.node (h : Leads fs creating links here ns loc n) (hn : n ≠ some .directory) :
    fs.node? loc = n ∧ IsEnd n := by
  induction h with
  | here => exact absurd rfl hn
  | arrive _ hnode he => exact ⟨hnode, he⟩
  | stay _ _ ih => exact ih hn
  | up _ ih => exact ih hn
  | enter _ _ _ _ ih => exact ih hn
  | follow _ _ _ _ ih => exact ih hn

/-- What can be opened for creation can be looked up. -/
theorem Leads.lookup (h : Leads fs true links here ns loc n) :
    Leads fs false links here ns loc n := by
  induction h with
  | here => exact .here
  | stay hn _ ih => exact .stay hn ih
  | up _ ih => exact .up ih
  | arrive hp hnode he => exact .arrive hp hnode he
  | enter hp _ hnode _ ih => exact .enter hp rfl hnode ih
  | follow hp _ hnode _ ih => exact .follow hp rfl hnode ih

/-- A file that is put where a walk arrives is where the same walk arrives then: the walk goes
through directories and links only, and there was neither. -/
theorem Leads.set (h : Leads fs creating links here ns loc n) (hn : n ≠ some .directory)
    (content : Bytes) :
    Leads (fs.set loc (.file content)) creating links here ns loc (some (.file content)) := by
  obtain ⟨hloc, he⟩ := h.node hn
  -- On the way every name is at another location than `loc`, so it is found as before.
  induction h with
  | here => exact absurd rfl hn
  | stay hx _ ih => exact .stay hx (ih hn hloc he)
  | up _ ih => exact .up (ih hn hloc he)
  | arrive hp _ _ =>
    exact .arrive hp (node_set_self fs (by simp) _) ⟨by simp, by simp⟩
  | @enter links here loc name rest n hp hc hnode _ ih =>
    have hne : here ++ [name] ≠ loc := fun e => he.1 (by rw [← hloc, ← e, hnode])
    exact .enter hp hc (by rw [node_set_ne fs hne, hnode]) (ih hn hloc he)
  | @follow links here loc name target rest n hp hc hnode _ ih =>
    have hne : here ++ [name] ≠ loc := fun e => he.2 target (by rw [← hloc, ← e, hnode])
    exact .follow hp hc (by rw [node_set_ne fs hne, hnode]) (ih hn hloc he)

/-! ## The file at a path -/

/-- What the file that `path` is opened for holds, and none in it when it has yet to be made.
None when the path cannot be opened, or not as a file. -/
def held? (fs : FileSystem) (path : Bytes) : Option (Option Bytes) :=
  match fs.locate true path with
  | .error _ | .ok (_, some .directory) | .ok (_, some .sink) => none
  | .ok (_, none) => some none
  | .ok (_, some node) => some (some ((content? node).getD []))

theorem locate_ok_iff {path : Bytes} :
    fs.locate creating path = .ok (loc, n) ↔
      (0 ∉ path ∧ path ≠ [] ∧ path.length ≤ maxPathLength) ∧
        Leads fs creating maxLinks (origin path fs.workingDirectory) (names path) loc n := by
  unfold locate
  rw [← walk_ok_iff]
  split
  · simp [*]
  split
  · simp [*]
  split
  · rename_i hl
    simp [Nat.not_le_of_lt hl]
  · rename_i h0 he hl
    simp [h0, he, Nat.le_of_not_lt hl]

theorem locate_set {path : Bytes} (h : fs.locate creating path = .ok (loc, n))
    (hn : n ≠ some .directory) (content : Bytes) :
    (fs.set loc (.file content)).locate creating path = .ok (loc, some (.file content)) := by
  rw [locate_ok_iff] at h ⊢
  exact ⟨h.1, h.2.set hn content⟩

theorem locate_lookup {path : Bytes} (h : fs.locate true path = .ok (loc, n)) :
    fs.locate false path = .ok (loc, n) := by
  rw [locate_ok_iff] at h ⊢
  exact ⟨h.1, h.2.lookup⟩

/-- What a path is opened for when its file holds `content`: nothing yet, or a file. -/
theorem located_of_held {path : Bytes} {content : Option Bytes}
    (h : fs.held? path = some content) :
    ∃ loc n, fs.locate true path = .ok (loc, n) ∧ n ≠ some .directory ∧ n ≠ some .sink ∧
      content = n.map fun node => (content? node).getD [] := by
  unfold held? at h
  split at h
  · cases h
  · cases h
  · cases h
  · rename_i loc hl
    cases h
    exact ⟨loc, none, hl, by simp, by simp, rfl⟩
  · rename_i loc node hd hs hl
    cases h
    exact ⟨loc, some node, hl, by simpa using hd, by simpa using hs, rfl⟩

/-- A file that can be opened can be changed, and holds what the change makes of it. -/
theorem held_modify {path : Bytes} {content : Option Bytes} (h : fs.held? path = some content)
    (change : Bytes → Bytes) :
    ∃ fs', fs.modify path change = .ok fs' ∧
      fs'.held? path = some (some (change (content.getD []))) := by
  obtain ⟨loc, n, hl, hd, hs, rfl⟩ := located_of_held h
  unfold modify held?
  rw [hl]
  cases n with
  | none =>
    refine ⟨_, rfl, ?_⟩
    rw [locate_set hl hd]
    rfl
  | some node =>
    cases node with
    | directory => exact absurd rfl hd
    | sink => exact absurd rfl hs
    | _ =>
      refine ⟨_, rfl, ?_⟩
      rw [locate_set hl hd]
      rfl

/-- A path that refuses a change holds nothing. -/
theorem held_of_refused {path : Bytes} {change : Bytes → Bytes} {fault : Fault}
    (h : fs.modify path change = .error fault) : fs.held? path = none := by
  cases hh : fs.held? path with
  | none => rfl
  | some content =>
    obtain ⟨fs', hm, -⟩ := held_modify hh change
    rw [h] at hm
    cases hm

/-- A change that can be found where it was made was made to what the file held. -/
theorem held_of_modified {fs' : FileSystem} {path : Bytes} {change : Bytes → Bytes}
    {left : Option Bytes} (hm : fs.modify path change = .ok fs')
    (hl : fs'.held? path = some left) :
    ∃ content, fs.held? path = some content ∧ left = some (change (content.getD [])) := by
  cases hh : fs.held? path with
  | none =>
    -- Only a device takes a change and holds nothing, and then it holds nothing afterwards.
    exfalso
    unfold held? at hh
    unfold modify at hm
    split at hh <;> simp_all [held?]
  | some content =>
    obtain ⟨fs'', hm', hl'⟩ := held_modify hh change
    rw [hm] at hm'
    cases hm'
    rw [hl] at hl'
    exact ⟨content, rfl, Option.some.inj hl'⟩

/-- A reader finds what the file holds. -/
theorem read_of_held {path : Bytes} {content : Option Bytes} (h : fs.held? path = some content) :
    fs.read path = match content with
      | none => .error .notFound
      | some bytes => .ok bytes := by
  obtain ⟨loc, n, hl, hd, -, rfl⟩ := located_of_held h
  have he := ((locate_ok_iff.1 hl).2.node hd).2
  unfold read find
  rw [locate_lookup hl]
  cases n with
  | none => rfl
  | some node =>
    cases node with
    | directory => exact absurd rfl hd
    | link target => exact absurd rfl (he.2 target)
    | _ => rfl

end ScriptHost.FileSystem
