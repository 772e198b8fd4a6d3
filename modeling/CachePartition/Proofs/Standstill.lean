import CachePartition.Proofs.Talks
import CachePartition.Proofs.Views

/-! Talks with daemons that nothing but the talks changes. After a talk has come to something, the same talk
comes to the same again, up to an entry being there already or being gone already, and changes nothing. -/
namespace CachePartition

open Pass

/-- The outcome of a run that made one exchange before. -/
def Pass.Outcome.after {σ α : Type} (x : Exchange) (o : Outcome σ α) : Outcome σ α :=
  { o with trace := x :: o.trace }

/-- The call may be made again: it deletes nothing, and it creates only what was created in vain. -/
def DaemonCall.Repeats (earlier : List Exchange) (behaviour : TextMap CreateBehaviour) :
    DaemonCall → Prop
  | .create a body => (∃ x ∈ earlier, x.call = .daemon (.create a body)) ∧
      behaviour.getD a .accept ≠ .accept
  | .delete _ _ => False
  | _ => True

theorem DaemonCall.Repeats.mono {c : DaemonCall} {t t' : List Exchange}
    {behaviour : TextMap CreateBehaviour} (h : c.Repeats t behaviour) (more : t ⊆ t') :
    c.Repeats t' behaviour := by
  cases c with
  | create a body =>
    obtain ⟨⟨x, hx, made⟩, vain⟩ := h
    exact ⟨⟨x, more hx, made⟩, vain⟩
  | _ => exact h

/-- What settling an entry comes to when it is done once more: the entry created is there now. -/
def NodeResult.again (r : NodeResult) : NodeResult :=
  if r.change = .created then ⟨{ r.outcome with response := "Success: 200" }, .updated⟩ else r

namespace Daemons

/-- The daemons as surroundings of talks; nothing else is there to be called. -/
def answers : Surroundings Daemons
  | d, .daemon c => d.answer c
  | d, .cluster c => (c.failed (.connection ""), d)
  | d, .podCpus => (.error .list, d)
  | d, .enlist _ => ((), d)
  | d, .dismiss _ => ((), d)

/-- The daemons behave alike, and those at some of the addresses hold the same entries. -/
structure SameOn (P : String → Prop) (d d' : Daemons) : Prop where
  entries (a : String) (h : P a) : d'.entriesAt a = d.entriesAt a
  behaviour : d'.behaviour = d.behaviour
  unreachable : d'.unreachable = d.unreachable

variable {d d' d'' : Daemons} {a node uuid : String} {body e : Entry} {α β : Type} {P Q : String → Prop}

namespace SameOn

theorem refl (P : String → Prop) (d : Daemons) : SameOn P d d := ⟨fun _ _ => rfl, rfl, rfl⟩

theorem trans (h : SameOn P d d') (h' : SameOn P d' d'') : SameOn P d d'' where
  entries a ha := (h'.entries a ha).trans (h.entries a ha)
  behaviour := h'.behaviour.trans h.behaviour
  unreachable := h'.unreachable.trans h.unreachable

theorem imp (h : SameOn P d d') (fewer : ∀ a, Q a → P a) : SameOn Q d d' :=
  ⟨fun a ha => h.entries a (fewer a ha), h.behaviour, h.unreachable⟩

theorem push (d : Daemons) (a : String) (body : Entry) : SameOn (· ≠ a) d (d.push a body) :=
  ⟨fun _ other => by rw [entriesAt_push, if_neg other], rfl, rfl⟩

theorem mapAt (d : Daemons) (a : String) {f : List Entry → List Entry} (hf : f [] = []) :
    SameOn (· ≠ a) d (d.mapAt a f) :=
  ⟨fun _ other => by rw [entriesAt_mapAt d a hf, if_neg other], behaviour_mapAt .., unreachable_mapAt ..⟩

end SameOn

/-- Changing a table into itself changes nothing. -/
theorem mapAt_eq_self {f : List Entry → List Entry} (h : f (d.entriesAt a) = d.entriesAt a) :
    d.mapAt a f = d := by
  unfold mapAt
  split
  · next l known =>
    have same : f l = l := by simpa [entriesAt, SortedMap.getD, known] using h
    have entries : d.entries.insert a (f l) = d.entries := by
      refine SortedMap.ext fun b => ?_
      by_cases hb : b = a
      · rw [hb, SortedMap.get?_insert_self, same, known]
      · rw [SortedMap.get?_insert_ne _ hb]
    rw [entries]
  · rfl

theorem run_served {c : DaemonCall} {next : c.Answer → Pass α} {x : c.Answer}
    (reached : d.unreachable.contains c.address = false) (served : d.serve c = (x, d')) :
    (Pass.call (.daemon c) next).run answers d = ((next x).run answers d').after ⟨.daemon c, x⟩ := by
  simp [run, answers, answer, reached, served, Outcome.after]

theorem run_listed (reached : d.unreachable.contains a = false)
    (f : List Entry → Attempt SyncError α) : (listEntries node a >>= f).run.run answers d =
      ((f (d.entriesAt a)).run.run answers d).after ⟨.daemon (.list a), .ok (d.entriesAt a)⟩ :=
  run_served reached rfl

/-- The failure to reach the daemon of a node. -/
def awayReport (node a : String) : Report SyncError := ⟨.daemon node, [.daemon (.transport a)]⟩

theorem run_away (away : d.unreachable.contains a = true) (f : List Entry → Attempt SyncError α) :
    (listEntries node a >>= f).run.run answers d =
      ⟨.error (awayReport node a), d, [⟨.daemon (.list a), .error (.transport a)⟩]⟩ := by
  have answered : answers d (.daemon (.list a)) = (.error (.transport a), d) := by
    simp [answers, answer, DaemonCall.address, away, DaemonCall.failed]
  change run answers (.call (.daemon (.list a)) _) d = _
  rw [run, answered]
  rfl

section Reached

variable (node) (reached : d.unreachable.contains a = false)

include reached

theorem run_update (found : Entry.findByUuid (d.entriesAt a) body.uuid = some e) :
    (settleEntry node a body).run.run answers d =
      ⟨.ok ⟨.ofEntry "Success: 200" e, .updated⟩, d.mapAt a (amend e.id body),
        [⟨.daemon (.list a), .ok (d.entriesAt a)⟩,
          ⟨.daemon (.update a e.id body), .ok "Success: 200"⟩]⟩ := by
  have there : (d.entriesAt a).any (fun f => f.id = e.id) = true :=
    List.any_eq_true.mpr ⟨e, (Entry.mem_of_findByUuid found).1, by simp⟩
  have served : d.serve (.update a e.id body) = (.ok "Success: 200", d.mapAt a (amend e.id body)) := by
    rw [serve, if_pos there]
  rw [settleEntry, run_listed reached, found]
  exact congrArg (Outcome.after _) (run_served reached served)

theorem run_drop (found : Entry.findByUuid (d.entriesAt a) uuid = some e) :
    (dropEntry node a uuid).run.run answers d =
      ⟨.ok true, d.mapAt a fun l => l.filter fun f => f.id ≠ e.id,
        [⟨.daemon (.list a), .ok (d.entriesAt a)⟩, ⟨.daemon (.delete a e.id), .ok ()⟩]⟩ := by
  rw [dropEntry, run_listed reached, found]
  exact congrArg (Outcome.after _) (run_served reached rfl)

/-- A daemon that has taken the entry is asked for it. -/
theorem run_taken {response : String} (served : d.serve (.create a body) = (.ok response, d'))
    (unreachable : d'.unreachable = d.unreachable) :
    (createEntry node a body).run.run answers d =
      ⟨.ok (match Entry.findByUuid (d'.entriesAt a) body.uuid with
        | some e => ⟨.ofEntry response e, .created⟩
        | none => ⟨{ response }, .rejected⟩), d',
        [⟨.daemon (.create a body), .ok response⟩, ⟨.daemon (.list a), .ok (d'.entriesAt a)⟩]⟩ := by
  have reached' : d'.unreachable.contains a = false := unreachable ▸ reached
  refine (run_served reached served).trans (congrArg (Outcome.after _) (run_listed reached' _) |>.trans ?_)
  cases Entry.findByUuid (d'.entriesAt a) body.uuid <;> rfl

/-- A daemon that refuses the entry stays as it is. -/
theorem run_refused {status : Nat} {text : String}
    (served : d.serve (.create a body) = (.error (.rejected status text), d)) :
    (createEntry node a body).run.run answers d =
      ⟨.ok ⟨{ response := (DaemonError.rejected status text).message }, .rejected⟩, d,
        [⟨.daemon (.create a body), .error (.rejected status text)⟩]⟩ :=
  run_served reached served

end Reached

/-- Whatever becomes of the daemons elsewhere, the pass comes to this value with these calls and changes
nothing. -/
def Still (P : String → Prop) (d : Daemons) (p : Pass α) (value : α) (calls : List DaemonCall) : Prop :=
  ∀ d', d.SameOn P d' →
    ∃ t, p.run answers d' = ⟨value, d', t⟩ ∧ t.map (·.call) = calls.map Call.daemon

theorem Still.of_same {p : Pass α} {value : α} {calls : List DaemonCall} (h : Still P d p value calls)
    (same : d.SameOn P d') : Still P d' p value calls :=
  fun d'' same' => h d'' (same.trans same')

theorem Still.bind_done {p : Pass α} {value : α} {calls : List DaemonCall} (h : Still P d p value calls)
    (f : α → β) : Still P d (p.bind fun a => .done (f a)) (f value) calls := by
  intro d' same
  obtain ⟨t, ran, called⟩ := h d' same
  exact ⟨t, by simp [run_bind, ran], called⟩

theorem still_away (away : d.unreachable.contains a = true) (f : List Entry → Attempt SyncError α) :
    Still (· = a) d (listEntries node a >>= f).run (.error (awayReport node a)) [.list a] :=
  fun _ same => ⟨_, run_away (same.unreachable ▸ away) f, rfl⟩

section Reached

variable (node) (reached : d.unreachable.contains a = false)

include reached

/-- The entry is there, with the settings wanted. -/
theorem still_settled (found : Entry.findByUuid (d.entriesAt a) body.uuid = some e)
    (ids : ((d.entriesAt a).map (·.id)).Nodup) (right : e.withSettings body = e) :
    Still (· = a) d (settleEntry node a body).run (.ok ⟨.ofEntry "Success: 200" e, .updated⟩)
      [.list a, .update a e.id body] := by
  intro d' same
  have table := same.entries a rfl
  have amended : amend e.id body (d'.entriesAt a) = d'.entriesAt a := by
    rw [amend_eq_map (table ▸ ids)]
    refine (List.map_congr_left fun f hf => ?_).trans (List.map_id' _)
    split
    · next hid =>
      obtain ⟨held, -⟩ := Entry.mem_of_findByUuid found
      rw [List.inj_on_of_nodup_map ids (table ▸ hf) held hid, right]
    · rfl
  have ran := run_update node (same.unreachable ▸ reached) (table ▸ found)
  rw [mapAt_eq_self amended] at ran
  exact ⟨_, ran, rfl⟩

/-- The entry is wanted in vain. -/
theorem still_vain (absent : Entry.findByUuid (d.entriesAt a) body.uuid = none)
    (vain : d.behaviour.getD a .accept ≠ .accept) : ∃ result : NodeResult, result.change = .rejected ∧
      ∃ calls, Still (· = a) d (settleEntry node a body).run (.ok result) calls ∧
        ∀ c ∈ calls, c = .list a ∨ c = .create a body := by
  have listed {d' : Daemons} (same : d.SameOn (· = a) d') :
      (settleEntry node a body).run.run answers d' =
        ((createEntry node a body).run.run answers d').after
          ⟨.daemon (.list a), .ok (d'.entriesAt a)⟩ := by
    rw [settleEntry, run_listed (same.unreachable ▸ reached), same.entries a rfl, absent]
  cases behaviour : d.behaviour.getD a .accept with
  | accept => exact absurd behaviour vain
  | drop =>
    refine ⟨⟨{ response := "Success: 200" }, .rejected⟩, rfl, [.list a, .create a body, .list a],
      fun d' same => ?_, by simp⟩
    have served : d'.serve (.create a body) = (.ok "Success: 200", d') := by
      rw [serve, same.behaviour, behaviour]
    rw [listed same, run_taken node (same.unreachable ▸ reached) served rfl, same.entries a rfl, absent]
    exact ⟨_, rfl, rfl⟩
  | reject =>
    let response := (DaemonError.rejected 400 "not enough cache ways").message
    refine ⟨⟨{ response }, .rejected⟩, rfl, [.list a, .create a body], fun d' same => ?_, by simp⟩
    have served : d'.serve (.create a body) = (.error (.rejected 400 "not enough cache ways"), d') := by
      rw [serve, same.behaviour, behaviour]
    rw [listed same, run_refused node (same.unreachable ▸ reached) served]
    exact ⟨_, rfl, rfl⟩

/-- The entry is gone. -/
theorem still_gone (absent : Entry.findByUuid (d.entriesAt a) uuid = none) :
    Still (· = a) d (dropEntry node a uuid).run (.ok false) [.list a] := by
  intro d' same
  rw [dropEntry, run_listed (same.unreachable ▸ reached), same.entries a rfl, absent]
  exact ⟨_, rfl, rfl⟩

end Reached

/-- A run brings the pass to a standstill: it changes the daemons at its addresses only, and after it the
pass comes to what is said and makes only calls that may be made again. -/
structure Settles (P : String → Prop) (d : Daemons) (p : Pass α) (again : α → α) : Prop where
  sound : (p.run answers d).state.Sound
  elsewhere : SameOn (¬ P ·) d (p.run answers d).state
  still : ∃ calls, Still P (p.run answers d).state p (again (p.run answers d).value) calls ∧
    ∀ c ∈ calls, c.Repeats (p.run answers d).trace d.behaviour

namespace Settles

variable {p : Pass α} {again : α → α}

/-- What a run comes to tells whether it brings the pass to a standstill. -/
theorem of_run {value : α} {t : List Exchange} (calls : List DaemonCall)
    (ran : p.run answers d = ⟨value, d', t⟩) (sound : d'.Sound) (elsewhere : SameOn (¬ P ·) d d')
    (still : Still P d' p (again value) calls) (repeats : ∀ c ∈ calls, c.Repeats t d.behaviour) :
    Settles P d p again := by
  constructor
  · rwa [ran]
  · rwa [ran]
  · rw [ran]
    exact ⟨calls, still, repeats⟩

/-- A pass at a standstill stays there. -/
theorem of_still {value : α} {calls : List DaemonCall} (sound : d.Sound) (still : Still P d p value calls)
    (fixed : again value = value)
    (vain : ∀ c ∈ calls, (∃ b, c = .list b) ∨ ∃ b body, c = .create b body ∧
      d.behaviour.getD b .accept ≠ .accept) : Settles P d p again := by
  obtain ⟨t, ran, called⟩ := still d (.refl P d)
  refine .of_run _ ran sound (.refl _ d) (fixed.symm ▸ still) fun c hc => ?_
  rcases vain c hc with ⟨b, rfl⟩ | ⟨b, body, rfl, behaviour⟩
  · trivial
  · have made : Call.daemon (.create b body) ∈ t.map (·.call) := called ▸ List.mem_map_of_mem hc
    exact ⟨List.mem_map.mp made, behaviour⟩

theorem done (sound : d.Sound) {a : α} (fixed : again a = a) : Settles P d (.done a) again := by
  have still : Still P d (.done a) a [] := fun _ _ => ⟨[], rfl, rfl⟩
  exact of_still sound still fixed (by simp)

theorem imp (h : Settles P d p again) (iff : ∀ a, P a ↔ Q a) : Settles Q d p again :=
  (funext fun a => propext (iff a) : P = Q) ▸ h

theorem bind_done (h : Settles P d p again) (f : α → β) {again' : β → β}
    (goes : ∀ a, again' (f a) = f (again a)) :
    Settles P d (p.bind fun a => .done (f a)) again' := by
  obtain ⟨sound, elsewhere, calls, still, repeats⟩ := h
  refine ⟨by simpa [run_bind] using sound, by simpa [run_bind] using elsewhere, calls, ?_, ?_⟩
  · simpa [run_bind, goes] using still.bind_done f
  · simpa [run_bind] using repeats

end Settles

/-- Passes that keep to addresses of their own, one after the other, are brought to a standstill by one
run. -/
theorem Settles.mapM {ι : Type} {f : ι → Pass α} {again : α → α} {here : ι → String → Prop}
    {visits : List ι} (each : ∀ v d, d.Sound → Settles (here v) d (f v) again)
    (apart : visits.Pairwise fun u v => ∀ a, here u a → ¬ here v a) (sound : d.Sound) :
    Settles (fun a => ∃ v ∈ visits, here v a) d (visits.mapM f) (List.map again) := by
  induction visits generalizing d with
  | nil => exact .done sound rfl
  | cons v visits ih =>
    obtain ⟨others, apart⟩ := List.pairwise_cons.mp apart
    obtain ⟨sound₁, elsewhere₁, calls₁, still₁, repeats₁⟩ := each v d sound
    obtain ⟨sound₂, elsewhere₂, calls₂, still₂, repeats₂⟩ := ih apart sound₁
    -- What the first round has settled is not touched by the others.
    have kept : SameOn (here v) _ _ :=
      elsewhere₂.imp fun a ha => fun ⟨u, hu, there⟩ => others u hu a ha there
    refine .of_run (calls₁ ++ calls₂) (run_mapM_cons answers f v visits d) sound₂ ?_ ?_ ?_
    · refine (elsewhere₁.imp fun a away there => away ⟨v, List.mem_cons_self, there⟩).trans ?_
      exact elsewhere₂.imp fun a away ⟨u, hu, there⟩ => away ⟨u, List.mem_cons_of_mem _ hu, there⟩
    · intro d' same
      have same₁ : SameOn (here v) _ d' := same.imp fun a there => ⟨v, List.mem_cons_self, there⟩
      have same₂ : SameOn (fun a => ∃ u ∈ visits, here u a) _ d' :=
        same.imp fun a ⟨u, hu, there⟩ => ⟨u, List.mem_cons_of_mem _ hu, there⟩
      obtain ⟨t₁, ran₁, called₁⟩ := still₁.of_same kept d' same₁
      obtain ⟨t₂, ran₂, called₂⟩ := still₂ d' same₂
      refine ⟨t₁ ++ t₂, ?_, by simp [called₁, called₂]⟩
      rw [run_mapM_cons]
      simp only [ran₁, ran₂, List.map_cons]
    · intro c hc
      rcases List.mem_append.mp hc with hc | hc
      · exact (repeats₁ c hc).mono (List.subset_append_left _ _)
      · exact (elsewhere₁.behaviour ▸ repeats₂ c hc).mono (List.subset_append_right _ _)

theorem settles_settleEntry (sound : d.Sound) :
    Settles (· = a) d (settleEntry node a body).run (Except.map NodeResult.again) := by
  have distinct := sound.distinct a
  by_cases away : d.unreachable.contains a = true
  · exact .of_still sound (still_away away _) rfl (by simp)
  have reached : d.unreachable.contains a = false := by simpa using away
  cases found : Entry.findByUuid (d.entriesAt a) body.uuid with
  | some e =>
    -- The entry amended is found again, and amending it the same way leaves it as it is.
    obtain ⟨held, own⟩ := Entry.mem_of_findByUuid found
    have ran := run_update node reached found
    have change : Change body.uuid d (d.mapAt a (amend e.id body)) := .amend a e body held own
    have table : (d.mapAt a (amend e.id body)).entriesAt a = amend e.id body (d.entriesAt a) := by
      rw [entriesAt_mapAt d a rfl, if_pos rfl]
    have found' : Entry.findByUuid ((d.mapAt a (amend e.id body)).entriesAt a) body.uuid =
        some (e.withSettings body) := by
      rw [table, Entry.findByUuid_eq_head?, ← own, distinct.owned_amend held, List.head?_cons]
    have still := still_settled node (change.conduct.2 ▸ reached) found'
      (change.sound sound |>.distinct a).ids rfl
    exact .of_run _ ran (change.sound sound) (.mapAt d a rfl) still (by simp [DaemonCall.Repeats])
  | none =>
    by_cases behaviour : d.behaviour.getD a .accept = .accept
    · -- The entry created is found from now on, so the same talk updates it the next time.
      have absent := Entry.findByUuid_eq_none_iff.mp found
      have served : d.serve (.create a body) = (.ok "Success: 201", d.push a body) := by
        rw [serve, behaviour]
      have found' := findByUuid_push found
      have ran : (settleEntry node a body).run.run answers d =
          ((createEntry node a body).run.run answers d).after
            ⟨.daemon (.list a), .ok (d.entriesAt a)⟩ := by
        rw [settleEntry, run_listed reached, found]
      rw [run_taken node reached served rfl, found'] at ran
      have sound' : (d.push a body).Sound := sound.push absent
      have still := still_settled node (d := d.push a body) reached found'
        (sound'.distinct a).ids rfl
      exact .of_run _ ran sound' (.push d a body) still (by simp [DaemonCall.Repeats])
    · obtain ⟨result, rejected, calls, still, made⟩ := still_vain node reached found behaviour
      refine .of_still sound still (by simp [Except.map, NodeResult.again, rejected]) fun c hc => ?_
      rcases made c hc with rfl | rfl
      · exact .inl ⟨a, rfl⟩
      · exact .inr ⟨a, body, rfl, behaviour⟩

theorem settles_dropEntry (sound : d.Sound) :
    Settles (· = a) d (dropEntry node a uuid).run (Except.map fun _ => false) := by
  by_cases away : d.unreachable.contains a = true
  · exact .of_still sound (still_away away _) rfl (by simp)
  have reached : d.unreachable.contains a = false := by simpa using away
  cases found : Entry.findByUuid (d.entriesAt a) uuid with
  | none => exact .of_still sound (still_gone node reached found) rfl (by simp)
  | some e =>
    obtain ⟨held, own⟩ := Entry.mem_of_findByUuid found
    let dropped := d.mapAt a fun l => l.filter fun f => f.id ≠ e.id
    have change : Change uuid d dropped := .drop a e held own
    have ran := run_drop node reached found
    have absent : Entry.findByUuid (dropped.entriesAt a) uuid = none := by
      rw [Entry.findByUuid_eq_head?, ← own, entriesAt_mapAt d a rfl, if_pos rfl,
        (sound.distinct a).owned_drop held, List.head?_nil]
    have still := still_gone node (change.conduct.2 ▸ reached) absent
    exact .of_run _ ran (change.sound sound) (.mapAt d a rfl) still (by simp [DaemonCall.Repeats])

end Daemons

namespace Finding

/-- What a visit comes to when it is made once more. -/
def again : Finding → Finding
  | .brought node result => .brought node (result.map NodeResult.again)
  | .swept node result => .swept node (result.map fun _ => false)

@[simp] theorem node_again (f : Finding) : f.again.node = f.node := by
  cases f <;> rfl

@[simp] theorem isMiss_again (f : Finding) : f.again.isMiss = f.isMiss := by
  rcases f with ⟨node, _ | ⟨_, change⟩⟩ | ⟨node, _ | _⟩
  case brought.ok => cases change <;> rfl
  all_goals rfl

@[simp] theorem isRefusal_again (f : Finding) : f.again.isRefusal = f.isRefusal := by
  rcases f with ⟨node, _ | ⟨_, change⟩⟩ | ⟨node, _ | _⟩
  case brought.ok => cases change <;> rfl
  all_goals rfl

end Finding

/-- A talk brings itself to a standstill. -/
theorem Visit.settles_talk {ask : ClusterAnswers} {scheme : Scheme} {w : Workload}
    {spaces : TextMap String} (v : Visit) (d : Daemons) (sound : d.Sound) :
    d.Settles (v.address? ask scheme spaces = some ·) (v.talk ask scheme w spaces) Finding.again := by
  generalize h : v.talk ask scheme w spaces = p
  have talks : Talks ask scheme w spaces v p := h ▸ v.talks
  have at_ {a b : String} (found : v.address? ask scheme spaces = some a) :
      b = a ↔ v.address? ask scheme spaces = some b := by
    rw [found, Option.some.injEq, eq_comm]
  cases talks with
  | lost | missing => exact .done sound rfl
  | settle found =>
    refine Daemons.Settles.imp ?_ fun _ => at_ found
    exact (Daemons.settles_settleEntry sound).bind_done (Finding.brought _) fun _ => rfl
  | drop found =>
    refine Daemons.Settles.imp ?_ fun _ => at_ found
    exact (Daemons.settles_dropEntry sound).bind_done (Finding.swept _) fun _ => rfl

/-- All talks of a synchronization, one after the other, bring themselves to a standstill. -/
theorem settles_talks {ask : ClusterAnswers} {scheme : Scheme} {w : Workload}
    {nodeStates : List NodeState} (apart : AddressesApart ask scheme nodeStates) {d : Daemons}
    (sound : d.Sound) : d.Settles
      (fun a => ∃ v ∈ w.visits nodeStates, v.address? ask scheme (spacesByNode nodeStates) = some a)
      ((w.visits nodeStates).mapM (Visit.talk ask scheme w (spacesByNode nodeStates)))
      (List.map Finding.again) :=
  .mapM Visit.settles_talk apart.visits sound

end CachePartition
