import Mathlib.Data.List.Forall2
import ScriptHost.Proofs.CallOrder
import ScriptHost.Proofs.ReplErrors
import ScriptHost.Session

/-!
# What the runtime sees of a run of the loop

The calls of a run over any source of lines, for a traced engine that answers as it likes at
every call, and files that it may change at every call.

**Blocks (`LineCalls`).** Every handled line is one block. A request that the runtime refuses is
the whole block. An opened one is followed by the body of the line and the close. Which body it
is depends on the files as they are when the request has been opened: a line that names an
existing path is run as a script, any other is evaluated (`LineBody`).

**Reach (`Reachable`).** The lifecycles that can come about: created, and taken on by operations
and by loops. As long as they are not shut down they serve what they were configured with
(`Reachable.serves`), so the name of inline code is the configured one.

**Results.**
* `step_calls`: one line makes the calls of its block.
* `run_calls`: a run makes the calls of the blocks of the lines it handles, in order, and nothing
  else.
-/
namespace ScriptHost

/-! ## Blocks -/

/-- The calls for a line in an open request, for the files `fs` and a host whose inline code is
called `name`. -/
inductive LineBody (name : Bytes) (fs : FileSystem) (line : String) : List Answered → Prop
  | script {completed : Bool} :
      line ≠ "" → 0 ∉ Utf8.encode line → fs.contains (Utf8.encode line) = true →
      LineBody name fs line
        [⟨.openScript (Utf8.encode line), ()⟩, ⟨.runScript, completed⟩, ⟨.closeScript, ()⟩]
  | inline {outcome : Action.Outcome} {xs : List Answered} :
      ¬ (line ≠ "" ∧ fs.contains (Utf8.encode line) = true) →
      Action.Made name (.evaluate line) outcome xs → LineBody name fs line xs

/-- The exchanges for a line. What exists is decided by the engine's state when it has opened the
request. -/
inductive LineCalls {σ : Type} (view : σ → FileSystem) (name : Bytes) (line : String) :
    List (Exchange σ) → Prop
  | refused {x : Exchange σ} {status : Int} :
      x.answered = ⟨.openRequest, status⟩ → status ≠ successStatus → LineCalls view name line [x]
  | opened {x y : Exchange σ} {body : List (Exchange σ)} :
      x.answered = ⟨.openRequest, successStatus⟩ →
      LineBody name (view x.after) line (body.map (·.answered)) →
      y.answered = ⟨.closeRequest, ()⟩ → LineCalls view name line ([x] ++ body ++ [y])

namespace Repl

variable {σ : Type} {e : Engine σ} {config : Host.Config}

/-! ## One line -/

theorem runAs_calls {l : Lifecycle (Traced σ)} (hs : l.host.Serves config) (fs : FileSystem)
    (line : String) :
    ∃ xs, l.Follows (runAs e.traced l (.ofLine fs line)).2 xs ∧
      LineBody (Utf8.encode config.evalName) fs line (xs.map (·.answered)) := by
  unfold LineKind.ofLine
  split
  · rename_i hc
    simp only [Bool.and_eq_true, decide_eq_true_eq] at hc
    have h0 : 0 ∉ Utf8.encode line := by
      intro h0
      simp [fs.contains_of_nul h0] at hc
    obtain ⟨completed, xs, -, hf, hx⟩ :=
      Lifecycle.runScript_made (e := e) (l := l) (Utf8.encode line) h0
    exact ⟨xs, hf, hx ▸ .script hc.1 h0 hc.2⟩
  · rename_i hc
    simp only [Bool.and_eq_true, decide_eq_true_eq] at hc
    obtain ⟨xs, hf, hx⟩ := Lifecycle.evaluate_made (e := e) hs line
    exact ⟨xs, hf, .inline hc hx⟩

section
variable {r : Repl (Traced σ)} (view : σ → FileSystem)

/-- A line makes the calls of its block. -/
theorem step_calls (hs : r.lifecycle.host.Serves config)
    (h : Lifecycle.isReady r.lifecycle.phase = true) (line : String) :
    ∃ xs, r.lifecycle.Follows (r.step e.traced (view ·.state) line).2.lifecycle xs ∧
      LineCalls view (Utf8.encode config.evalName) line xs := by
  obtain ⟨x, status, hx, ha, hf, hok⟩ := Lifecycle.openRequest_calls (e := e) h
  rcases step_cases e.traced (view ·.state) h line with
    ⟨l, ho, -, hstep⟩ | ⟨l, outcome, l', ho, hk, hstep⟩
  · rw [ho] at hf hok
    rw [hstep]
    have hst : status ≠ successStatus := fun hst => by cases hok.2 hst
    exact ⟨[x], hf, .refused hx hst⟩
  · rw [ho] at ha hf hok
    obtain rfl := hok.1 rfl
    obtain ⟨ys, hg, hy⟩ := runAs_calls (e := e) (hf.serves hs) (view l.engine.state) line
    obtain ⟨z, hz, hh⟩ :=
      Lifecycle.closeRequest_calls e (l'.log (.handledLine (r.linesHandled + 1) outcome))
    rw [hk] at hg
    rw [hstep]
    refine ⟨[x] ++ ys ++ [z], (hf.trans hg).trans ((Lifecycle.follows_log l' _).trans hh), ?_⟩
    exact .opened hx (ha ▸ hy) hz

theorem ask_follows (r : Repl (Traced σ)) : r.lifecycle.Follows r.ask.lifecycle [] := by
  unfold ask
  dsimp only
  split
  · exact ⟨Host.extends_console _ _, (List.append_nil _).symm⟩
  · exact Lifecycle.Follows.refl _

/-! ## The whole run -/

/-- Since `r`, the loop `r'` has handled `lines`, and the engine was called for their blocks. -/
def Calls (view : σ → FileSystem) (name : Bytes) (r r' : Repl (Traced σ)) (lines : List String) :
    Prop :=
  ∃ blocks, r.lifecycle.Follows r'.lifecycle blocks.flatten ∧
    List.Forall₂ (LineCalls view name) lines blocks ∧
    r'.lifecycle.phase = if lines = [] then r.lifecycle.phase else .requestIdle

/-- What makes no call keeps the blocks. -/
theorem Calls.of_follows_nil {view : σ → FileSystem} {name : Bytes}
    {r r' r'' : Repl (Traced σ)} {lines : List String}
    (h : Calls view name r r' lines) (hf : r'.lifecycle.Follows r''.lifecycle [])
    (hp : r''.lifecycle.phase = r'.lifecycle.phase) : Calls view name r r'' lines := by
  obtain ⟨blocks, hg, hb, hq⟩ := h
  exact ⟨blocks, by simpa using hg.trans hf, hb, hp.trans hq⟩

theorem run_makes_calls (hs : r.lifecycle.host.Serves config)
    (h : Lifecycle.isReady r.lifecycle.phase = true) (readings : List Reading) :
    Calls view (Utf8.encode config.evalName) r (r.run e.traced (view ·.state) readings).2.2
      (Reading.handled readings) := by
  refine run_invariant (P := fun lines r' => Calls view _ r r' lines) e.traced (view ·.state)
    ?_ ?_ ?_ h [] ⟨[], Lifecycle.Follows.refl _, .nil, rfl⟩ readings
  · exact fun hc => hc.of_follows_nil (ask_follows _) (phase_ask _)
  · exact fun event hc => hc.of_follows_nil (Lifecycle.follows_log _ event) rfl
  · rintro lines r' line hp ⟨blocks, hf, hb, -⟩
    obtain ⟨xs, hg, hx⟩ := step_calls (e := e) view (hf.serves hs) hp line
    have hi := (step_keeps e.traced (view ·.state) hp line).2.1
    refine ⟨blocks ++ [xs], ?_, List.rel_append hb (.cons hx .nil), by simpa using hi⟩
    simpa using hf.trans hg

/-! ## Lifecycles that can come about -/

/-- A loop that may not open requests calls nothing and changes no phase. -/
theorem run_unready_follows (h : Lifecycle.isReady r.lifecycle.phase = false)
    (readings : List Reading) :
    (r.run e.traced (view ·.state) readings).2.2.lifecycle.phase = r.lifecycle.phase ∧
      r.lifecycle.Follows (r.run e.traced (view ·.state) readings).2.2.lifecycle [] := by
  obtain ⟨r', hr, -, ⟨console, hl⟩, -⟩ := run_unready e.traced (view ·.state) h readings
  rw [hr]
  dsimp only
  rw [hl]
  exact ⟨rfl, Host.extends_console _ _, (List.append_nil _).symm⟩

theorem act_step (e : Engine σ) (view : σ → FileSystem) (r : Repl σ) (readings : List Reading)
    (line : String) : (r.act e view readings (.step line)).2.2 = (r.step e view line).2 := by
  unfold act
  dsimp only
  split <;> simp only [*]

theorem act_run (e : Engine σ) (view : σ → FileSystem) (r : Repl σ) (readings : List Reading) :
    (r.act e view readings .run).2.2 = (r.run e view readings).2.2 := by
  unfold act
  dsimp only
  split <;> simp only [*]

end

end Repl

namespace Lifecycle

variable {σ : Type} {e : Engine σ} {config : Host.Config}

/-- The lifecycles that can come about: created with `config`, and taken on by operations and by
acts of loops over any source and any files. -/
inductive Reachable (e : Engine σ) (config : Host.Config) : Lifecycle (Traced σ) → Prop
  | created {t : Traced σ} {l : Lifecycle (Traced σ)} :
      (create t config).1 = .ok l → Reachable e config l
  | operated {l : Lifecycle (Traced σ)} (op : Operation) :
      Reachable e config l → Reachable e config (l.operate e.traced op).2
  | looped {r : Repl (Traced σ)} (view : σ → FileSystem) (readings : List Reading)
      (a : Repl.Act) :
      Reachable e config r.lifecycle →
      Reachable e config (r.act e.traced (view ·.state) readings a).2.2.lifecycle

/-- An act of a loop on a lifecycle that may not open requests changes no phase, and any other
act is made of requests. Either way the lifecycle goes on serving. -/
theorem serves_act {r : Repl (Traced σ)} (view : σ → FileSystem) (readings : List Reading)
    (a : Repl.Act) (h : r.lifecycle.phase ≠ .globalShutdownDone → r.lifecycle.host.Serves config)
    (hp : (r.act e.traced (view ·.state) readings a).2.2.lifecycle.phase ≠ .globalShutdownDone) :
    (r.act e.traced (view ·.state) readings a).2.2.lifecycle.host.Serves config := by
  cases hr : isReady r.lifecycle.phase with
  | true =>
    have hs := h (ne_done_of_ready hr)
    cases a with
    | step line =>
      obtain ⟨xs, hf, -⟩ := Repl.step_calls (e := e) view hs hr line
      rw [Repl.act_step]
      exact hf.serves hs
    | run =>
      obtain ⟨blocks, hf, -⟩ := Repl.run_makes_calls (e := e) view hs hr readings
      rw [Repl.act_run]
      exact hf.serves hs
  | false =>
    cases a with
    | step line =>
      rw [Repl.act_step, Repl.step_unready _ _ hr] at hp ⊢
      exact h hp
    | run =>
      obtain ⟨hq, hf⟩ := Repl.run_unready_follows (e := e) view hr readings
      rw [Repl.act_run] at hp ⊢
      exact hf.serves (h (hq ▸ hp))

/-- Until it is shut down, a lifecycle serves what it was configured with. -/
theorem Reachable.serves {l : Lifecycle (Traced σ)} (h : l.Reachable e config)
    (hp : l.phase ≠ .globalShutdownDone) : l.host.Serves config := by
  induction h with
  | created hc => exact (create_ok hc).2.2
  | operated op _ ih => exact serves_operate op ih hp
  | looped view readings a _ ih => exact serves_act view readings a ih hp

end Lifecycle

/-- **Calls of a run.** A run calls the engine for the blocks of the lines it handles, in order,
and for nothing else, and it leaves the lifecycle idle if there was such a line. -/
theorem Repl.run_calls {σ : Type} (e : Engine σ) (view : σ → FileSystem) (config : Host.Config)
    (r : Repl (Traced σ)) (hr : r.lifecycle.Reachable e config)
    (h : Lifecycle.isReady r.lifecycle.phase = true) (readings : List Reading) :
    ∃ r', r.run e.traced (view ·.state) readings =
        (.ok (Reading.last readings).stopReason, Reading.unread readings, r') ∧
      (∃ blocks, r'.lifecycle.engine.exchanges =
          r.lifecycle.engine.exchanges ++ blocks.flatten ∧
        List.Forall₂ (LineCalls view (Utf8.encode config.evalName)) (Reading.handled readings)
          blocks) ∧
      r'.lifecycle.phase =
        if Reading.handled readings = [] then r.lifecycle.phase else .requestIdle := by
  have hs := hr.serves fun hd => by rw [hd] at h; cases h
  obtain ⟨r', ho, -⟩ := run_reads e.traced (view ·.state) h readings
  obtain ⟨blocks, hf, hb, hp⟩ := run_makes_calls (e := e) view hs h readings
  rw [ho] at hf hp
  exact ⟨r', ho, ⟨blocks, hf.exchanges, hb⟩, hp⟩

theorem Repl.run_calls_recorded :
    ∃ l, (Lifecycle.create (⟨{}, []⟩ : Traced Recording.State) .default).1 = .ok l ∧
      let r : Repl (Traced Recording.State) :=
        ⟨(l.operate (Recording.engine {}).traced .startup).2, .empty [], "> ", false, 0, 0, []⟩
      r.lifecycle.Reachable (Recording.engine {}) .default ∧
        Lifecycle.isReady r.lifecycle.phase = true ∧
        ∃ r', r.run (Recording.engine {}).traced (fun _ => ⟨[([Utf8.encode "a"], .file [])], []⟩)
            [.line "1+1", .line "a", .line "exit"] = (.ok (.keyword "exit"), [], r') ∧
          (∃ blocks, r'.lifecycle.engine.exchanges =
              r.lifecycle.engine.exchanges ++ blocks.flatten ∧
            List.Forall₂ (LineCalls (fun _ => ⟨[([Utf8.encode "a"], .file [])], []⟩)
              (Utf8.encode Host.Config.default.evalName)) ["1+1", "a"] blocks) ∧
          r'.lifecycle.phase = .requestIdle := by
  have hc : ∃ l, (Lifecycle.create (⟨{}, []⟩ : Traced Recording.State) .default).1 = .ok l ∧
      Lifecycle.isReady (l.operate (Recording.engine {}).traced .startup).2.phase = true :=
    ⟨_, rfl, rfl⟩
  obtain ⟨l, hl, hp⟩ := hc
  have hr := Lifecycle.Reachable.operated (e := Recording.engine {}) .startup (.created hl)
  exact ⟨l, hl, hr, hp, run_calls (Recording.engine {})
    (fun _ => ⟨[([Utf8.encode "a"], .file [])], []⟩) .default
    ⟨_, .empty [], "> ", false, 0, 0, []⟩ hr hp [.line "1+1", .line "a", .line "exit"]⟩

end ScriptHost
