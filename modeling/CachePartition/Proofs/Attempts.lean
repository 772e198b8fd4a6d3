import CachePartition.Proofs.Faultless
import CachePartition.Proofs.Removals
import CachePartition.Proofs.Tours

/-! A removal, attempt by attempt. Each node state has its turn whatever became of those before, and the
failed ones are reported in order. Where they can be reached later, the removal ends well and deletes
nothing elsewhere. -/
namespace CachePartition

open Pass

/-- The turn of a node state in a removal: its exchanges, and whether it failed. -/
structure RemovalAttempt where
  nodeState : NodeState
  part : List Exchange
  failed : Bool

namespace RemovalAttempt

/-- Where the daemon of the node is. -/
def place? (t : RemovalAttempt) (k : Cluster) (scheme : Scheme) : Option String :=
  k.address? scheme t.nodeState.node t.nodeState.space

/-- The nodes that failed, in order. -/
def failures (attempts : List RemovalAttempt) : List String :=
  (attempts.filter (·.failed)).map (·.nodeState.node)

theorem failures_cons (t : RemovalAttempt) (attempts : List RemovalAttempt) :
    failures (t :: attempts) =
      (if t.failed then [t.nodeState.node] else []) ++ failures attempts := by
  unfold failures
  cases failed : t.failed with
  | true => rw [List.filter_cons_of_pos failed]; rfl
  | false => rw [List.filter_cons_of_neg (by simp [failed])]; rfl

end RemovalAttempt

/-- What attempts have made of the tables. -/
structure Cluster.Attempted (k : Cluster) (scheme : Scheme) (u : String) (attempts : List RemovalAttempt)
    (d d' : Daemons) : Prop where
  unreachable : d'.unreachable = d.unreachable
  others (a : String) : Entry.foreign u (d'.entriesAt a) = Entry.foreign u (d.entriesAt a)
  kept (a : String) : (d'.entriesAt a).Sublist (d.entriesAt a)
  untouched (a : String) (away : ∀ t ∈ attempts, t.place? k scheme ≠ some a) :
    d'.entriesAt a = d.entriesAt a
  failed (t : RemovalAttempt) (mem : t ∈ attempts) (failed : t.failed = true) (a : String)
    (place : t.place? k scheme = some a) : d'.entriesAt a = d.entriesAt a
  relieved (t : RemovalAttempt) (mem : t ∈ attempts) (fine : t.failed = false) :
    ∃ a, t.place? k scheme = some a ∧ d.unreachable.contains a = false ∧
      Entry.Relieved u (d.entriesAt a) (d'.entriesAt a)

section Attempting

variable {w x : World} {k : Cluster} {scheme : Scheme} {u : String}

/-- Handling a node leaves the entries of others alone. -/
theorem Handled.others {address? : Option String} {Right : List Entry → Prop} {d d' : Daemons} {b : Bool}
    (h : Handled u address? Right d d' b) (a : String) :
    Entry.foreign u (d'.entriesAt a) = Entry.foreign u (d.entriesAt a) := by
  cases h with
  | failed => rfl
  | settled there found reached revised right =>
    by_cases here : a = there
    · rw [here]
      exact revised.others
    · rw [revised.elsewhere a here]

/-- A removal that does so only takes entries away. -/
theorem Handled.kept {address? : Option String} {d d' : Daemons} {b : Bool}
    (h : Handled u address? (fun l => ∃ a, address? = some a ∧ Entry.Relieved u (d.entriesAt a) l) d d' b)
    (a : String) : (d'.entriesAt a).Sublist (d.entriesAt a) := by
  cases h with
  | failed => exact .refl _
  | settled b found reached revised right =>
    by_cases here : a = b
    · obtain ⟨c, there, relieved⟩ := right
      obtain rfl := Option.some.inj (found.symm.trans there)
      exact here ▸ relieved.kept
    · rw [revised.elsewhere a here]

namespace Cluster.Attempted

variable {d d' d'' : Daemons}

theorem start : k.Attempted scheme u [] d d where
  unreachable := rfl
  others _ := rfl
  kept _ := .refl _
  untouched _ _ := rfl
  failed _ mem := nomatch mem
  relieved _ mem := nomatch mem

/-- One attempt before attempts at other addresses. -/
theorem cons {t : RemovalAttempt} {attempts : List RemovalAttempt}
    (handled : Handled u (t.place? k scheme) (fun l => ∃ a, t.place? k scheme = some a ∧
      Entry.Relieved u (d.entriesAt a) l) d d' t.failed)
    (rest : k.Attempted scheme u attempts d' d'')
    (apart : ∀ x ∈ attempts, ∀ a, t.place? k scheme = some a → x.place? k scheme ≠ some a) :
    k.Attempted scheme u (t :: attempts) d d'' := by
  have elsewhere (x : RemovalAttempt) (hx : x ∈ attempts) (a : String)
      (place : x.place? k scheme = some a) : d'.entriesAt a = d.entriesAt a :=
    handled.elsewhere fun there => apart x hx a there place
  constructor
  case unreachable => exact rest.unreachable.trans handled.unreachable
  case others =>
    intro a
    rw [rest.others a, handled.others a]
  case kept => exact fun a => (rest.kept a).trans (handled.kept a)
  case untouched =>
    intro a away
    obtain ⟨here, others⟩ := List.forall_mem_cons.mp away
    rw [rest.untouched a others, handled.elsewhere here]
  case failed =>
    intro x mem failed a place
    rcases List.mem_cons.mp mem with rfl | mem
    · rw [rest.untouched a fun y hy => apart y hy a place]
      rw [failed] at handled
      cases handled
      rfl
    · rw [rest.failed x mem failed a place, elsewhere x mem a place]
  case relieved =>
    intro x mem fine
    rcases List.mem_cons.mp mem with rfl | mem
    · rw [fine] at handled
      generalize after : d' = e at handled
      cases handled with
      | settled a place reached revised right =>
        subst after
        obtain ⟨b, place', relieved⟩ := right
        obtain rfl := Option.some.inj (place.symm.trans place')
        -- Later attempts lead elsewhere, so the table stays as this one has left it.
        rw [← rest.untouched a fun y hy => apart y hy a place] at relieved
        exact ⟨a, place, reached, relieved⟩
    · obtain ⟨a, place, reached, relieved⟩ := rest.relieved x mem fine
      rw [elsewhere x mem a place] at relieved
      exact ⟨a, place, handled.unreachable ▸ reached, relieved⟩

end Cluster.Attempted

/-- A step of a removal makes its attempt and notes a failure. -/
theorem run_removeStep (w : World) (scheme : Scheme) (u : String) (failed : List String) (n : NodeState) :
    w.run (removeStep scheme u failed n) =
      let tried := w.run (removeFromNode scheme u n.node n.space).run
      ⟨failed ++ if tried.value.isOk then [] else [n.node], tried.state, tried.trace⟩ := by
  refine (run_bind (removeFromNode scheme u n.node n.space).run _ w).trans ?_
  change _ = (let tried := (removeFromNode scheme u n.node n.space).run.run World.answer w
    (⟨failed ++ if tried.value.isOk then [] else [n.node], tried.state, tried.trace⟩ :
      Outcome World (List String)))
  generalize (removeFromNode scheme u n.node n.space).run.run World.answer w = tried
  obtain ⟨value, state, trace⟩ := tried
  cases value <;> simp [Except.isOk, Except.toBool]

/-- The attempt at the first node state, and then the others, whatever became of it. -/
theorem run_removeSteps_cons (w : World) (scheme : Scheme) (u : String) (failed : List String)
    (n : NodeState) (l : List NodeState) :
    w.run ((n :: l).foldlM (removeStep scheme u) failed) =
      let tried := w.run (removeFromNode scheme u n.node n.space).run
      let rest := tried.state.run
        (l.foldlM (removeStep scheme u) (failed ++ if tried.value.isOk then [] else [n.node]))
      ⟨rest.value, rest.state, tried.trace ++ rest.trace⟩ := by
  have step := run_removeStep w scheme u failed n
  simp only [World.run] at step ⊢
  rw [List.foldlM_cons]
  refine (run_bind (removeStep scheme u failed n) _ w).trans ?_
  rw [step]

/-- A removal goes through the node states in order and notes which of them failed. -/
theorem run_removeSteps (unscripted : w.Unscripted) (cluster : w.cluster = k)
    (ids : ∀ a, ((w.daemons.entriesAt a).map (·.id)).Nodup) {l : List NodeState}
    (apart : l.Pairwise fun m n => ∀ a, k.address? scheme m.node m.space = some a →
      k.address? scheme n.node n.space ≠ some a) (failed : List String) :
    ∃ (attempts : List RemovalAttempt) (x : World),
      w.run (l.foldlM (removeStep scheme u) failed) =
        ⟨failed ++ RemovalAttempt.failures attempts, x, (attempts.map (·.part)).flatten⟩ ∧
      attempts.map (·.nodeState) = l ∧
      (∀ t ∈ attempts, Sweeping scheme u t.nodeState.node t.nodeState.space t.part t.failed) ∧
      w.Steady x ∧ k.Attempted scheme u attempts w.daemons x.daemons := by
  induction l generalizing w failed with
  | nil =>
    refine ⟨[], w, ?_, rfl, fun _ mem => absurd mem List.not_mem_nil, .refl w, .start⟩
    simp [World.run, RemovalAttempt.failures]
  | cons n l ih =>
    obtain ⟨away, apart⟩ := List.pairwise_cons.mp apart
    simp only [run_removeSteps_cons]
    have sweeping := removeFromNode_yields
      (run_yields (removeFromNode scheme u n.node n.space).run World.answer w)
    have handles : w.Handles (removeFromNode scheme u n.node n.space).run u
        (k.address? scheme n.node n.space) (fun _ l => ∃ a, k.address? scheme n.node n.space = some a ∧
          Entry.Relieved u (w.daemons.entriesAt a) l) (fun r => !r.isOk) := by
      subst cluster
      exact relieves_removeFromNode unscripted fun a _ => ids a
    change Sweeping scheme u n.node n.space (w.run (removeFromNode scheme u n.node n.space).run).trace
      (!(w.run (removeFromNode scheme u n.node n.space).run).value.isOk) at sweeping
    unfold World.Handles World.Ensures at handles
    generalize w.run (removeFromNode scheme u n.node n.space).run = tried at sweeping handles ⊢
    obtain ⟨steady, handled⟩ := handles
    let t : RemovalAttempt := ⟨n, tried.trace, !tried.value.isOk⟩
    obtain ⟨attempts, x, ran, states, swept, later, attempted⟩ := ih (steady.unscripted unscripted)
      (steady.cluster.trans cluster) (fun a => (ids a).sublist ((handled.kept a).map _)) apart
      (failed ++ if tried.value.isOk then [] else [n.node])
    have others : ∀ y ∈ attempts, ∀ a, t.place? k scheme = some a → y.place? k scheme ≠ some a := by
      intro y hy a place
      exact away y.nodeState (states ▸ List.mem_map_of_mem hy) a place
    refine ⟨t :: attempts, x, ?_, by rw [List.map_cons, states], ?_, steady.trans later,
      .cons handled attempted others⟩
    · have noted : (if t.failed then [t.nodeState.node] else []) =
          if tried.value.isOk then [] else [n.node] := by
        cases well : tried.value.isOk <;> simp [t, well]
      rw [ran, RemovalAttempt.failures_cons, noted, List.append_assoc, List.map_cons, List.flatten_cons]
    · intro y hy
      rcases List.mem_cons.mp hy with rfl | hy
      · exact sweeping
      · exact swept y hy

/-- A world in which the faults of another one are cleared: nothing is laid down, the cluster is up, and
each node state leads to a daemon that is reached, to the one before if it led to any. The tables are the
same. -/
structure World.Mended (w : World) (scheme : Scheme) (v : World) : Prop where
  quiet : v.Quiet
  up : v.cluster.isDown = false
  nodeStates : v.cluster.nodeStates = w.cluster.nodeStates
  tables (a : String) : v.daemons.entriesAt a = w.daemons.entriesAt a
  kept (n : NodeState) (h : n ∈ w.cluster.nodeStates) (a : String)
    (found : w.cluster.address? scheme n.node n.space = some a) :
    v.cluster.address? scheme n.node n.space = some a
  reached (n : NodeState) (h : n ∈ w.cluster.nodeStates) :
    ∃ a, v.cluster.address? scheme n.node n.space = some a ∧ v.daemons.unreachable.contains a = false

/-- What has been done to a world where nodes were reached to remove a workload: nothing but deletions,
each at one of their addresses, where the workload had an entry. -/
structure World.Swept (w : World) (scheme : Scheme) (u : String) (reached : List NodeState)
    (t : List Exchange) (v : World) : Prop where
  quiet : v.Quiet
  cluster : v.cluster = w.cluster
  unreachable : v.daemons.unreachable = w.daemons.unreachable
  kept (a : String) : (v.daemons.entriesAt a).Sublist (w.daemons.entriesAt a)
  deletes (y : Exchange) (mem : y ∈ t) (a id : String) (call : y.call = .daemon (.delete a id)) :
    Entry.owned u (w.daemons.entriesAt a) ≠ [] ∧
      ∃ n ∈ reached, w.cluster.address? scheme n.node n.space = some a

namespace World.Swept

theorem start (quiet : w.Quiet) : w.Swept scheme u [] [] w where
  quiet := quiet
  cluster := rfl
  unreachable := rfl
  kept _ := .refl _
  deletes _ mem := nomatch mem

theorem append {v : World} {l l' : List NodeState} {t t' : List Exchange}
    (h : w.Swept scheme u l t v) (h' : v.Swept scheme u l' t' x) :
    w.Swept scheme u (l ++ l') (t ++ t') x := by
  constructor
  case quiet => exact h'.quiet
  case cluster => exact h'.cluster.trans h.cluster
  case unreachable => exact h'.unreachable.trans h.unreachable
  case kept => exact fun a => (h'.kept a).trans (h.kept a)
  case deletes =>
    intro y mem a id call
    rcases List.mem_append.mp mem with mem | mem
    · obtain ⟨held, n, hn, found⟩ := h.deletes y mem a id call
      exact ⟨held, n, List.mem_append_left _ hn, found⟩
    · obtain ⟨held, n, hn, found⟩ := h'.deletes y mem a id call
      -- Entries are only taken away, so what is held later has been held before.
      have before : Entry.owned u (w.daemons.entriesAt a) ≠ [] := by
        intro none_held
        have fewer := (h.kept a).filter fun e => e.uuid = u
        rw [Entry.owned] at none_held held
        rw [none_held] at fewer
        exact held (List.sublist_nil.mp fewer)
      exact ⟨before, n, List.mem_append_right _ hn, h.cluster ▸ found⟩

end World.Swept

/-- Dropping an entry of a workload at a daemon that is reached goes well, and deletes something only if
the workload has an entry there. -/
theorem Daemons.drops_owned {d : Daemons} {a : String} (reached : d.unreachable.contains a = false)
    (node u : String) :
    let o := (dropEntry node a u).run.run Daemons.answers d
    o.value.isOk = true ∧ o.state.unreachable = d.unreachable ∧
      (∀ b, (o.state.entriesAt b).Sublist (d.entriesAt b)) ∧
      ∀ y ∈ o.trace, ∀ b id, y.call = .daemon (.delete b id) →
        b = a ∧ Entry.owned u (d.entriesAt a) ≠ [] := by
  cases first : Entry.findByUuid (d.entriesAt a) u with
  | none =>
    have ran : (dropEntry node a u).run.run Daemons.answers d =
        ⟨.ok false, d, [⟨.daemon (.list a), .ok (d.entriesAt a)⟩]⟩ := by
      rw [dropEntry, run_listed reached, first]
      rfl
    rw [ran]
    refine ⟨rfl, rfl, fun b => .refl _, fun y mem b id call => ?_⟩
    cases List.mem_singleton.mp mem
    cases call
  | some e =>
    rw [run_drop node reached first]
    refine ⟨rfl, unreachable_mapAt .., fun b => ?_, fun y mem b id call => ?_⟩
    · rw [entriesAt_mapAt d a rfl]
      split
      · next here => exact here ▸ List.filter_sublist
      · exact .refl _
    · rcases List.mem_pair.mp mem with rfl | rfl
      · cases call
      · cases call
        rw [Entry.findByUuid_eq_head?] at first
        refine ⟨rfl, fun none_held => ?_⟩
        rw [none_held] at first
        cases first

/-- A node that is reached is swept without failure. -/
theorem swept_removeFromNode (quiet : w.Quiet) (up : w.cluster.isDown = false) {n : NodeState} {a : String}
    (found : w.cluster.address? scheme n.node n.space = some a)
    (reached : w.daemons.unreachable.contains a = false) (u : String) :
    let tried := w.run (removeFromNode scheme u n.node n.space).run
    tried.value.isOk = true ∧ w.Swept scheme u [n] tried.trace tried.state := by
  intro tried
  have told : (removeFromNode scheme u n.node n.space).run.told w.cluster.tells =
      (dropEntry n.node a u).run := by
    rw [removeFromNode_eq, told_attemptBind, told_daemonAddress, Cluster.addressTold_eq_ok found]
    exact makes_dropEntry.told_at _
  have asked : ((removeFromNode scheme u n.node n.space).run.told w.cluster.tells).run World.answer w =
      { tried with trace := tried.trace.filter Exchange.isDaemon } :=
    run_told (I := fun s => s.Quiet ∧ s.cluster = w.cluster) (.of_alike (alike_removeFromNode _ _ _))
      (fun s c h query => by
        rw [h.1.answer_query query, Cluster.answer, h.2, up]
        rfl)
      (fun s d h => ⟨h.1.answer (.daemon d), by rw [h.1.answer_daemon]; exact h.2⟩) ⟨quiet, rfl⟩
  have daemonOnly : (dropEntry n.node a u).run.Makes fun c => ∃ d, c = .daemon d := by
    apply makes_dropEntry.imp
    rintro c ⟨d, called, _⟩
    exact ⟨d, called⟩
  have talk := World.run_talk daemonOnly quiet
  rw [told] at asked
  simp only [World.run] at talk
  rw [talk] at asked
  obtain ⟨well, unreachable, kept, deletes⟩ := Daemons.drops_owned reached n.node u
  generalize (dropEntry n.node a u).run.run Daemons.answers w.daemons = o at *
  obtain ⟨value, state, trace⟩ : o.value = tried.value ∧ { w with daemons := o.state } = tried.state ∧
      o.trace = tried.trace.filter Exchange.isDaemon :=
    ⟨congrArg Outcome.value asked, congrArg Outcome.state asked, congrArg Outcome.trace asked⟩
  refine ⟨value ▸ well, ?_⟩
  rw [← state]
  refine ⟨⟨quiet.unscripted, quiet.unfailing⟩, rfl, unreachable, kept, fun y mem b id call => ?_⟩
  have talked : y ∈ o.trace := trace ▸ List.mem_filter.mpr ⟨mem, by simp [Exchange.isDaemon, call]⟩
  obtain ⟨rfl, held⟩ := deletes y talked b id call
  exact ⟨held, n, List.mem_singleton_self n, found⟩

/-- Where each node is reached, a removal fails for none of them. -/
theorem swept_removeSteps (quiet : w.Quiet) (up : w.cluster.isDown = false) {l : List NodeState}
    (reached : ∀ n ∈ l, ∃ a, w.cluster.address? scheme n.node n.space = some a ∧
      w.daemons.unreachable.contains a = false) (u : String) (failed : List String) :
    let steps := w.run (l.foldlM (removeStep scheme u) failed)
    steps.value = failed ∧ w.Swept scheme u l steps.trace steps.state := by
  induction l generalizing w with
  | nil => exact ⟨rfl, .start quiet⟩
  | cons n l ih =>
    obtain ⟨⟨a, found, there⟩, others⟩ := List.forall_mem_cons.mp reached
    obtain ⟨well, swept⟩ := swept_removeFromNode quiet up found there u
    simp only [run_removeSteps_cons, well, if_pos, List.append_nil]
    have up' := swept.cluster ▸ up
    obtain ⟨kept, rest⟩ := ih swept.quiet up' (by rwa [swept.cluster, swept.unreachable])
    exact ⟨kept, swept.append rest⟩

/-- Where the node states can be listed, a removal is its steps, and fails if any node has. -/
theorem run_remove {v : World} {l : List NodeState} {failed : List String} {t : List Exchange}
    (listed : w.answer (.cluster .nodeStates) = (.ok l, w)) {wl : Workload}
    (ran : w.run (l.foldlM (removeStep scheme wl.uuid) []) = ⟨failed, v, t⟩) :
    w.run (remove scheme wl).run =
      ⟨if failed = [] then .ok () else .error ⟨.nodesFailed failed, []⟩, v,
        ⟨.cluster .nodeStates, .ok l⟩ :: t⟩ := by
  have first : listNodeStates.run.run World.answer w =
      ⟨.ok l, w, [⟨.cluster .nodeStates, .ok l⟩]⟩ := by
    change (Pass.call (.cluster .nodeStates) _).run World.answer w = _
    rw [Pass.run, listed]
    rfl
  have rest : (ExceptT.lift (l.foldlM (removeStep scheme wl.uuid) []) >>= fun failed =>
      if failed.isEmpty then return () else fail ⟨.nodesFailed failed, []⟩ :
        Attempt SyncError Unit).run.run World.answer w =
      ⟨if failed = [] then .ok () else .error ⟨.nodesFailed failed, []⟩, v, t⟩ := by
    refine (run_attemptBind (run_lift ran) _).trans ?_
    cases failed <;> exact congrArg _ (List.append_nil t)
  exact run_attemptThen first rest

/-- A removal is made after the faults are cleared that one has met with. It ends well, deletes nothing but
at the addresses of nodes that had failed, and leaves nothing of the workload at any node. -/
theorem removal_again {v : World} {attempts : List RemovalAttempt} {wl : Workload}
    (ids : ∀ a, ((w.daemons.entriesAt a).map (·.id)).Nodup)
    (attempted : w.cluster.Attempted scheme wl.uuid attempts w.daemons x.daemons)
    (states : attempts.map (·.nodeState) = w.cluster.nodeStates) (cluster : x.cluster = w.cluster)
    (single : ∀ a, (Entry.owned wl.uuid (w.daemons.entriesAt a)).length ≤ 1)
    (mended : x.Mended scheme v) :
    let again := v.run (remove scheme wl).run
    again.value = .ok () ∧
      (∀ y ∈ again.trace, ∀ a id, y.call = .daemon (.delete a id) →
        (∃ t ∈ attempts, t.failed = true ∧ t.place? v.cluster scheme = some a) ∧
        ∀ t ∈ attempts, t.failed = false → t.place? v.cluster scheme ≠ some a) ∧
      ∀ n ∈ v.cluster.nodeStates, ∀ a, v.cluster.address? scheme n.node n.space = some a →
        Entry.owned wl.uuid (again.state.daemons.entriesAt a) = [] := by
  intro again
  have nodes : v.cluster.nodeStates = w.cluster.nodeStates := mended.nodeStates.trans (cluster ▸ rfl)
  have listed : v.answer (.cluster .nodeStates) = (.ok v.cluster.nodeStates, v) :=
    v.answer_up mended.quiet mended.up .nodeStates
  have reached := mended.reached
  rw [← mended.nodeStates] at reached
  obtain ⟨none_failed, swept⟩ := swept_removeSteps mended.quiet mended.up reached wl.uuid []
  generalize steps : v.run (v.cluster.nodeStates.foldlM (removeStep scheme wl.uuid) []) = o
    at none_failed swept
  obtain ⟨failed, z, t⟩ := o
  have ran := run_remove listed steps
  obtain rfl : failed = [] := none_failed
  rw [if_pos rfl] at ran
  have ended : again.value = .ok () := congrArg Outcome.value ran
  have trace : again.trace = ⟨.cluster .nodeStates, .ok v.cluster.nodeStates⟩ :: t :=
    congrArg Outcome.trace ran
  -- A node that has not failed is clean, as it had one entry of the workload at most.
  have clean (t : RemovalAttempt) (mem : t ∈ attempts) (fine : t.failed = false) (a : String)
      (place : t.place? v.cluster scheme = some a) :
      Entry.owned wl.uuid (v.daemons.entriesAt a) = [] := by
    obtain ⟨b, there, -, relieved⟩ := attempted.relieved t mem fine
    have listed : t.nodeState ∈ x.cluster.nodeStates :=
      cluster ▸ states ▸ List.mem_map_of_mem mem
    have kept := mended.kept t.nodeState listed b (cluster ▸ there)
    obtain rfl := Option.some.inj (place.symm.trans kept)
    rw [mended.tables, relieved.owned, ← List.length_eq_zero_iff, List.length_tail]
    have one := single a
    omega
  refine ⟨ended, fun y mem a id call => ?_, fun n hn a found => ?_⟩
  · rw [trace] at mem
    rcases List.mem_cons.mp mem with rfl | mem
    · cases call
    obtain ⟨held, n, hn, found⟩ := swept.deletes y mem a id call
    have unclean (t : RemovalAttempt) (mem : t ∈ attempts) (fine : t.failed = false) :
        t.place? v.cluster scheme ≠ some a := fun place => held (clean t mem fine a place)
    refine ⟨?_, unclean⟩
    rw [nodes, ← states] at hn
    obtain ⟨t, mem, rfl⟩ := List.mem_map.mp hn
    cases failed : t.failed with
    | true => exact ⟨t, mem, failed, found⟩
    | false => exact absurd found (unclean t mem failed)
  · have ids' (a : String) : ((v.daemons.entriesAt a).map (·.id)).Nodup :=
      mended.tables a ▸ (ids a).sublist ((attempted.kept a).map _)
    have relief := ensures_remove scheme wl mended.quiet.unscripted ids' ended
    have fewer := ((attempted.kept a).filter fun e => e.uuid = wl.uuid).length_le
    have leading : 0 < v.cluster.leadingTo scheme v.cluster.nodeStates a :=
      List.countP_pos_iff.mpr ⟨n, hn, by simpa using found⟩
    have one := single a
    rw [relief.owned, List.drop_eq_nil_iff, mended.tables]
    unfold Entry.owned at one ⊢
    omega

/-- A removal attempts each node state once, in the order of the list, whatever became of those before, and
its exchanges are those of the attempts. It ends well just if no attempt has failed, and names those that
have otherwise. Where an attempt has failed, the table is as it was; where it has not, the daemon was
reached and the first entry of the workload there is gone. Entries of others stay. Let the workload have
had one entry at most at each address: a removal made once the faults are cleared ends well, deletes
entries only where an attempt had failed, and leaves none. -/
theorem removal_accounts (wl : Workload) (unscripted : w.Unscripted) (up : w.cluster.isDown = false)
    (lists : w.faults.failures .nodeStates = 0)
    (ids : ∀ a, ((w.daemons.entriesAt a).map (·.id)).Nodup)
    (apart : w.cluster.nodeStates.Pairwise fun m n => ∀ a,
      w.cluster.address? scheme m.node m.space = some a →
        w.cluster.address? scheme n.node n.space ≠ some a) :
    let removed := w.run (remove scheme wl).run
    ∃ attempts : List RemovalAttempt, attempts.map (·.nodeState) = w.cluster.nodeStates ∧
      removed.trace =
        ⟨.cluster .nodeStates, .ok w.cluster.nodeStates⟩ :: (attempts.map (·.part)).flatten ∧
      (∀ t ∈ attempts, Sweeping scheme wl.uuid t.nodeState.node t.nodeState.space t.part t.failed) ∧
      (removed.value = .ok () ↔ ∀ t ∈ attempts, t.failed = false) ∧
      (removed.value ≠ .ok () →
        removed.value = .error ⟨.nodesFailed (RemovalAttempt.failures attempts), []⟩) ∧
      w.cluster.Attempted scheme wl.uuid attempts w.daemons removed.state.daemons ∧
      ((∀ a, (Entry.owned wl.uuid (w.daemons.entriesAt a)).length ≤ 1) →
        ∀ v, removed.state.Mended scheme v →
          let again := v.run (remove scheme wl).run
          again.value = .ok () ∧
          (∀ y ∈ again.trace, ∀ a id, y.call = .daemon (.delete a id) →
            (∃ t ∈ attempts, t.failed = true ∧ t.place? v.cluster scheme = some a) ∧
            ∀ t ∈ attempts, t.failed = false → t.place? v.cluster scheme ≠ some a) ∧
          ∀ n ∈ v.cluster.nodeStates, ∀ a, v.cluster.address? scheme n.node n.space = some a →
            Entry.owned wl.uuid (again.state.daemons.entriesAt a) = []) := by
  intro removed
  obtain ⟨attempts, x, ran, states, swept, steady, attempted⟩ :=
    run_removeSteps (u := wl.uuid) unscripted rfl ids apart []
  have listed : w.answer (.cluster .nodeStates) = (.ok w.cluster.nodeStates, w) := by
    simp [World.answer, World.answerCluster, ClusterCall.method, lists, Cluster.answer, up, Cluster.serve]
  have ended := run_remove listed ran
  rw [List.nil_append] at ended
  have value := congrArg Outcome.value ended
  have state : removed.state = x := congrArg Outcome.state ended
  have none_failed : RemovalAttempt.failures attempts = [] ↔ ∀ t ∈ attempts, t.failed = false := by
    simp [RemovalAttempt.failures, List.filter_eq_nil_iff]
  refine ⟨attempts, states, congrArg Outcome.trace ended, swept, ?_, ?_, state ▸ attempted, ?_⟩
  · rw [← none_failed]
    constructor
    · intro well
      by_contra some_failed
      rw [if_neg some_failed] at value
      cases well.symm.trans value
    · intro none_failed
      rw [if_pos none_failed] at value
      exact value
  · intro ill
    have some_failed : RemovalAttempt.failures attempts ≠ [] := by
      intro none_failed
      rw [if_pos none_failed] at value
      exact ill value
    rw [if_neg some_failed] at value
    exact value
  · intro single v mended
    rw [state] at mended
    exact removal_again ids attempted states steady.cluster single mended

/-- Three daemons with an entry of one workload each. The second is not reached, and the pod of the third is
missing. -/
def twoLost : World where
  daemons := (((({} : Daemons).insert "http://10.0.0.1:8443" "w.").insert
    "http://10.0.0.2:8443" "w.").insert "http://10.0.0.3:8443" "w.").setUnreachable "http://10.0.0.2:8443" true
  cluster := ((({} : Cluster).addDaemonNode "n1" "rmd" "10.0.0.1" 4).addDaemonNode
    "n2" "rmd" "10.0.0.2" 4).addNodeState (.fresh "n3" "rmd")

/-- The daemons as a removal leaves them, all of them reached. -/
def twoFound : World where
  daemons := (twoLost.daemons.forget "http://10.0.0.1:8443" "w.").setUnreachable
    "http://10.0.0.2:8443" false
  cluster := twoLost.cluster.addPod (.daemon "n3" "rmd" "10.0.0.3")

theorem twoLost_distinct (a : String) : Entry.Distinct (twoLost.daemons.entriesAt a) := by
  have first := Daemons.Sound.empty.push (a := "http://10.0.0.1:8443") (e := { uuid := "w." }) nofun
  have second := first.push (a := "http://10.0.0.2:8443") (e := { uuid := "w." }) (by decide +kernel)
  have third := second.push (a := "http://10.0.0.3:8443") (e := { uuid := "w." }) (by decide +kernel)
  exact third.distinct a

theorem removal_accounts_twoLost :
    let wl : Workload := { metadata := { name := some "w" }, spec := {} }
    let removed := twoLost.run (remove .http wl).run
    removed.value = .error ⟨.nodesFailed ["n2", "n3"], []⟩ ∧ removed.state.Mended .http twoFound ∧
      (twoFound.run (remove .http wl).run).value = .ok () ∧
      ∀ n ∈ twoFound.cluster.nodeStates, ∀ a, twoFound.cluster.address? .http n.node n.space = some a →
        Entry.owned "w." ((twoFound.run (remove .http wl).run).state.daemons.entriesAt a) = [] := by
  intro wl removed
  have addresses : twoLost.cluster.nodeStates.Pairwise fun m n =>
      twoLost.cluster.address? .http m.node m.space ≠ twoLost.cluster.address? .http n.node n.space := by
    decide +kernel
  have cluster : removed.state.cluster = twoLost.cluster := rfl
  have tables : twoFound.daemons.entries = removed.state.daemons.entries := by decide +kernel
  have kept : ∀ n ∈ twoLost.cluster.nodeStates, ∀ a ∈ twoLost.cluster.address? .http n.node n.space,
      twoFound.cluster.address? .http n.node n.space = some a := by
    decide +kernel
  have reached : ∀ n ∈ twoLost.cluster.nodeStates, ∃ a ∈ twoFound.cluster.address? .http n.node n.space,
      twoFound.daemons.unreachable.contains a = false := by
    decide +kernel
  have mended : removed.state.Mended .http twoFound := by
    constructor
    case quiet => exact ⟨fun _ _ => rfl, fun _ => rfl⟩
    case up => rfl
    case nodeStates => exact cluster ▸ rfl
    case tables =>
      intro a
      rw [Daemons.entriesAt, tables]
      rfl
    case kept =>
      rw [cluster]
      exact kept
    case reached =>
      rw [cluster]
      exact reached
  obtain ⟨attempts, -, -, -, -, -, -, again⟩ := removal_accounts wl (fun _ _ => rfl) rfl rfl
    (fun a => (twoLost_distinct a).ids)
    (addresses.imp fun other a found found' => other (found.trans found'.symm))
  obtain ⟨ended, -, gone⟩ := again (fun a => (twoLost_distinct a).length_owned_le _) twoFound mended
  exact ⟨by decide +kernel, mended, ended, gone⟩

end Attempting

end CachePartition
