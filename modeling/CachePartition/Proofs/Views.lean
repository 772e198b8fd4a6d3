import CachePartition.Proofs.Anonymity
import CachePartition.Proofs.Conduct

/-! What a workload's pass can tell of a world: the cluster, how daemons behave, and the workload's own
entries up to ids. Passes that are alike and run in worlds that look the same keep them so, call by
call. -/
namespace CachePartition

open Pass

variable {u v : String} {last last' : Option Listing}

namespace Daemons

variable {d d' : Daemons} {a : String}

/-- The daemons behave alike and hold the same entries of a workload, up to ids. -/
structure SameFor (u : String) (d d' : Daemons) : Prop where
  behaviour : d.behaviour = d'.behaviour
  unreachable : d.unreachable = d'.unreachable
  owned (a : String) : (Entry.owned u (d.entriesAt a)).map Entry.anonymous =
    (Entry.owned u (d'.entriesAt a)).map Entry.anonymous

theorem SameFor.sameFirst (h : SameFor u d d') (a : String) :
    Entry.SameFirst u (d.entriesAt a) (d'.entriesAt a) := by
  unfold Entry.SameFirst
  rw [Entry.findByUuid_eq_head?, Entry.findByUuid_eq_head?, ← List.head?_map, ← List.head?_map,
    h.owned a]

/-- Changing the table at one address alike keeps the rest alike. -/
theorem SameFor.mapAt (h : SameFor u d d') {f f' : List Entry → List Entry} (hf : f [] = [])
    (hf' : f' [] = [])
    (same : (Entry.owned u (f (d.entriesAt a))).map Entry.anonymous =
      (Entry.owned u (f' (d'.entriesAt a))).map Entry.anonymous) :
    SameFor u (d.mapAt a f) (d'.mapAt a f') where
  behaviour := by simpa using h.behaviour
  unreachable := by simpa using h.unreachable
  owned b := by
    rw [entriesAt_mapAt d a hf, entriesAt_mapAt d' a hf']
    split
    · exact same
    · exact h.owned b

theorem SameFor.push (h : SameFor u d d') {body : Entry} (own : body.uuid = u) :
    SameFor u (d.push a body) (d'.push a body) where
  behaviour := h.behaviour
  unreachable := h.unreachable
  owned b := by
    have stored_owned (d : Daemons) : Entry.owned u [d.stored body] = [d.stored body] := by
      simp [Entry.owned, stored, own]
    have stored_alike : (d.stored body).anonymous = (d'.stored body).anonymous := rfl
    rw [entriesAt_push, entriesAt_push]
    split
    · have before := h.owned a
      simp only [Entry.owned, List.filter_append, List.map_append] at before stored_owned ⊢
      rw [before, stored_owned, stored_owned, List.map_singleton, List.map_singleton, stored_alike]
    · exact h.owned b

theorem SameFor.list (h : SameFor u d d') (a : String) :
    (∃ e, (d.answer (.list a)).1 = .error e ∧ (d'.answer (.list a)).1 = .error e) ∨
      ∃ l l', (d.answer (.list a)).1 = .ok l ∧ (d'.answer (.list a)).1 = .ok l' ∧
        Entry.SameFirst u l l' := by
  unfold answer
  rw [h.unreachable]
  split
  · exact .inl ⟨_, rfl, rfl⟩
  · exact .inr ⟨_, _, rfl, rfl, h.sameFirst a⟩

theorem SameFor.create (h : SameFor u d d') (a : String) {body : Entry} (own : body.uuid = u) :
    (d.answer (.create a body)).1 = (d'.answer (.create a body)).1 ∧
      SameFor u (d.answer (.create a body)).2 (d'.answer (.create a body)).2 := by
  unfold answer
  rw [h.unreachable]
  split
  · exact ⟨rfl, h⟩
  · rw [serve, serve, h.behaviour]
    split
    · exact ⟨rfl, h.push own⟩
    · exact ⟨rfl, h⟩
    · exact ⟨rfl, h⟩

/-- The entries that two tables hold of a workload, where one holds any, are the same up to ids. -/
theorem SameFor.entries (h : SameFor u d d') (hd : d.Sound) (hd' : d'.Sound) {e e' : Entry}
    (found : Entry.findByUuid (d.entriesAt a) u = some e)
    (found' : Entry.findByUuid (d'.entriesAt a) u = some e') : e.anonymous = e'.anonymous := by
  obtain ⟨held, own⟩ := Entry.mem_of_findByUuid found
  obtain ⟨held', own'⟩ := Entry.mem_of_findByUuid found'
  have same := h.owned a
  rw [← own, (hd.distinct a).owned_eq held, own, ← own', (hd'.distinct a).owned_eq held'] at same
  exact (List.cons.inj same).1

theorem SameFor.update (h : SameFor u d d') (hd : d.Sound) (hd' : d'.Sound) {e e' : Entry}
    (body : Entry) (found : Entry.findByUuid (d.entriesAt a) u = some e)
    (found' : Entry.findByUuid (d'.entriesAt a) u = some e') :
    (d.answer (.update a e.id body)).1 = (d'.answer (.update a e'.id body)).1 ∧
      SameFor u (d.answer (.update a e.id body)).2 (d'.answer (.update a e'.id body)).2 := by
  have alike := h.entries hd hd' found found'
  obtain ⟨held, own⟩ := Entry.mem_of_findByUuid found
  obtain ⟨held', own'⟩ := Entry.mem_of_findByUuid found'
  have there : (d.entriesAt a).any (fun f => f.id = e.id) = true :=
    List.any_eq_true.mpr ⟨e, held, by simp⟩
  have there' : (d'.entriesAt a).any (fun f => f.id = e'.id) = true :=
    List.any_eq_true.mpr ⟨e', held', by simp⟩
  have amended := (hd.distinct a).owned_amend held body
  have amended' := (hd'.distinct a).owned_amend held' body
  rw [own] at amended
  rw [own'] at amended'
  have settled : (e.withSettings body).anonymous = (e'.withSettings body).anonymous :=
    congrArg (·.withSettings body) alike
  by_cases away : d'.unreachable.contains a = true
  · simp only [answer, DaemonCall.address, h.unreachable, away, if_true]
    exact ⟨rfl, h⟩
  · simp only [answer, DaemonCall.address, h.unreachable, away, serve, there, there', if_true]
    refine ⟨rfl, h.mapAt rfl rfl ?_⟩
    rw [amended, amended', List.map_singleton, List.map_singleton, settled]

theorem SameFor.delete (h : SameFor u d d') (hd : d.Sound) (hd' : d'.Sound) {e e' : Entry}
    (found : Entry.findByUuid (d.entriesAt a) u = some e)
    (found' : Entry.findByUuid (d'.entriesAt a) u = some e') :
    (d.answer (.delete a e.id)).1 = (d'.answer (.delete a e'.id)).1 ∧
      SameFor u (d.answer (.delete a e.id)).2 (d'.answer (.delete a e'.id)).2 := by
  obtain ⟨held, own⟩ := Entry.mem_of_findByUuid found
  obtain ⟨held', own'⟩ := Entry.mem_of_findByUuid found'
  have dropped := (hd.distinct a).owned_drop held
  have dropped' := (hd'.distinct a).owned_drop held'
  rw [own] at dropped
  rw [own'] at dropped'
  by_cases away : d'.unreachable.contains a = true
  · simp only [answer, DaemonCall.address, h.unreachable, away, if_true]
    exact ⟨rfl, h⟩
  · simp only [answer, DaemonCall.address, h.unreachable, away, serve]
    refine ⟨rfl, h.mapAt rfl rfl ?_⟩
    rw [dropped, dropped']

/-- A change on behalf of one workload is not seen by another. -/
theorem Change.sameFor {d₀ : Daemons} (change : Change u d d₀) (hd : d.Sound) (hv : v ≠ u)
    (h : SameFor v d d') : SameFor v d₀ d' := by
  obtain ⟨behaviour, unreachable⟩ := change.conduct
  refine ⟨behaviour.trans h.behaviour, unreachable.trans h.unreachable, fun a => ?_⟩
  rw [Entry.owned_of_foreign_eq (change.foreign hd.distinct a) hv, h.owned a]

/-- Nor does it touch the entries that another workload's pass has listed. -/
theorem Change.shows (change : Change u d d') (hd : d.Sound) (hv : v ≠ u) (h : d.Shows v last) :
    d'.Shows v last := by
  intro l hl
  rw [← h l hl, Entry.findByUuid_eq_head?, Entry.findByUuid_eq_head?,
    Entry.owned_of_foreign_eq (change.foreign hd.distinct l.address) hv]

end Daemons

namespace World

variable {w w' : World}

/-- No answers are laid down: daemons and the cluster answer for themselves. -/
structure Quiet (w : World) : Prop where
  unscripted : w.Unscripted
  unfailing (m : ClusterMethod) : w.faults.failures m = 0

theorem Quiet.answerCluster (h : w.Quiet) (c : ClusterCall) :
    w.answerCluster c = ((w.cluster.answer c).1, { w with cluster := (w.cluster.answer c).2 }) := by
  simp only [World.answerCluster, h.unfailing c.method]

theorem Quiet.answer_query (h : w.Quiet) {c : ClusterCall} (query : c.isQuery = true) :
    w.answer (.cluster c) = ((w.cluster.answer c).1, w) := by
  simp only [answer, h.answerCluster, w.cluster.answer_query query]

theorem Quiet.answer_daemon (h : w.Quiet) (c : DaemonCall) : w.answer (.daemon c) =
    ((w.daemons.answer c).1, { w with daemons := (w.daemons.answer c).2 }) :=
  h.unscripted.answerDaemon c

theorem Quiet.answer (h : w.Quiet) (c : Call) : (w.answer c).2.Quiet := by
  cases c with
  | daemon c => exact h.answer_daemon c ▸ ⟨h.unscripted, h.unfailing⟩
  | cluster c => simpa only [World.answer, h.answerCluster] using ⟨h.unscripted, h.unfailing⟩
  | _ => exact ⟨h.unscripted, h.unfailing⟩

/-- A cluster that is up serves each call. -/
theorem answer_up (quiet : w.Quiet) (up : w.cluster.isDown = false) (c : ClusterCall) :
    World.answer w (.cluster c) =
      ((w.cluster.serve c).1, { w with cluster := (w.cluster.serve c).2 }) := by
  simp [World.answer, quiet.answerCluster, Cluster.answer, up]

/-- The worlds look the same to a workload's pass. -/
structure SameView (u : String) (w w' : World) : Prop where
  cluster : w.cluster = w'.cluster
  daemons : w.daemons.SameFor u w'.daemons

theorem SameView.refl (u : String) (w : World) : SameView u w w := ⟨rfl, rfl, rfl, fun _ => rfl⟩

/-- Daemon calls that keep the workload's part of the tables the same keep the view the same. -/
theorem SameView.answer_daemon (same : SameView u w w') (h : w.Quiet) (h' : w'.Quiet)
    {c c' : DaemonCall} (after : (w.daemons.answer c).2.SameFor u (w'.daemons.answer c').2) :
    SameView u (w.answer (.daemon c)).2 (w'.answer (.daemon c')).2 := by
  rw [h.answer_daemon, h'.answer_daemon]
  exact ⟨same.cluster, after⟩

/-- What holds of a workload's pass under way: nothing is laid down, the tables are sound, and the pass
goes by its last listing. -/
structure Underway {α : Type} (u : String) (w : World) (p : Pass α) (last : Option Listing) : Prop where
  quiet : w.Quiet
  sound : w.daemons.Sound
  careful : p.Careful u last
  shows : w.daemons.Shows u last

variable {α β : Type} {c : Call} {next : c.Answer → Pass α} {q : Pass β}

theorem Underway.change (h : Underway u w (.call c next) last) :
    Daemons.Change u w.daemons (w.answer c).2.daemons :=
  (answer_justified h.quiet.unscripted h.shows h.careful.1).2.1

theorem Underway.step (h : Underway u w (.call c next) last) :
    Underway u (w.answer c).2 (next (w.answer c).1) (Listing.after last c (w.answer c).1) where
  quiet := h.quiet.answer c
  sound := h.change.sound h.sound
  careful := h.careful.2 _
  shows := (answer_justified h.quiet.unscripted h.shows h.careful.1).2.2

/-- No call of such a pass changes the cluster. -/
theorem alike_cluster {Q : α → β → Prop} (alike : Alike u Q (.call c next) q) (h : w.Quiet) :
    (w.answer c).2.cluster = w.cluster := by
  cases alike with
  | ask c query => rw [h.answer_query query]
  | list | create | update | delete => rw [h.answer_daemon]

/-- Passes that are alike stay so when each makes its next call in its world. -/
theorem alike_step {Q : α → β → Prop} (alike : Alike u Q (.call c next) q)
    (h : Underway u w (.call c next) last) (h' : Underway u w' q last') (same : SameView u w w') :
    ∃ c' next', q = .call c' next' ∧ Alike u Q (next (w.answer c).1) (next' (w'.answer c').1) ∧
      SameView u (w.answer c).2 (w'.answer c').2 := by
  cases alike with
  | ask c query follow =>
    refine ⟨_, _, rfl, ?_, ?_⟩
    · rw [h.quiet.answer_query query, h'.quiet.answer_query query, same.cluster]
      exact follow _
    · rw [h.quiet.answer_query query, h'.quiet.answer_query query]
      exact same
  | list a failed listed =>
    refine ⟨_, _, rfl, ?_, same.answer_daemon h.quiet h'.quiet (by simpa using same.daemons)⟩
    rw [h.quiet.answer_daemon, h'.quiet.answer_daemon]
    rcases same.daemons.list a with ⟨e, he, he'⟩ | ⟨l, l', hl, hl', shown⟩
    · simpa only [he, he'] using failed e
    · simpa only [hl, hl'] using listed l l' shown
  | create a body follow =>
    obtain ⟨own, -⟩ := h.shows.fits h.careful.1 rfl
    obtain ⟨answers, after⟩ := same.daemons.create a own
    refine ⟨_, _, rfl, ?_, same.answer_daemon h.quiet h'.quiet after⟩
    rw [h.quiet.answer_daemon, h'.quiet.answer_daemon, answers]
    exact follow _
  | update a id id' body follow =>
    -- Each id still names the workload's entry, although other passes ran since it was listed.
    obtain ⟨-, e, found, rfl⟩ := h.shows.fits h.careful.1 rfl
    obtain ⟨-, e', found', rfl⟩ := h'.shows.fits h'.careful.1 rfl
    obtain ⟨answers, after⟩ := same.daemons.update (a := a) h.sound h'.sound body found found'
    refine ⟨_, _, rfl, ?_, same.answer_daemon h.quiet h'.quiet after⟩
    rw [h.quiet.answer_daemon, h'.quiet.answer_daemon, answers]
    exact follow _
  | delete a id id' follow =>
    obtain ⟨e, found, rfl⟩ := h.shows.fits h.careful.1 rfl
    obtain ⟨e', found', rfl⟩ := h'.shows.fits h'.careful.1 rfl
    obtain ⟨answers, after⟩ := same.daemons.delete (a := a) h.sound h'.sound found found'
    refine ⟨_, _, rfl, ?_, same.answer_daemon h.quiet h'.quiet after⟩
    rw [h.quiet.answer_daemon, h'.quiet.answer_daemon, answers]
    exact follow _

end World

end CachePartition
