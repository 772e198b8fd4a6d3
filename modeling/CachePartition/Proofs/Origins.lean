import CachePartition.Proofs.ExternalIds
import CachePartition.Proofs.Isolation

/-! What entries were created for. Passes interleave and the world is changed from outside meanwhile. An
entry that a pass of one workload has created is found in a listing, changed and deleted only by passes
of workloads with the same external id, and so of the same name and namespace. -/
namespace CachePartition

open Pass

namespace Daemons

variable {d d' : Daemons} {a id u : String}

def HasIssued (d : Daemons) (id : String) : Prop := ∃ k < d.issued, id = Text.decimal (k + 1)

/-- All entries are held under ids that have been issued. -/
def Numbered (d : Daemons) : Prop := ∀ a, ∀ e ∈ d.entriesAt a, d.HasIssued e.id

theorem not_hasIssued_nextId (d : Daemons) : ¬ d.HasIssued d.nextId := by
  rintro ⟨k, hk, hid⟩
  have : d.issued + 1 = k + 1 := Text.decimal_injective hid
  omega

theorem HasIssued.later (h : d.HasIssued id) (hd : d.Continues d') : d'.HasIssued id := by
  obtain ⟨k, hk, hid⟩ := h
  exact ⟨k, Nat.lt_of_lt_of_le hk hd.issued, hid⟩

theorem Numbered.later (h : d.Numbered) (hd : d.Continues d') : d'.Numbered := by
  intro a e he
  obtain ⟨kept, fresh, eq, sub, new⟩ := hd.tables a
  rcases List.mem_append.mp (eq ▸ identity_mem he) with old | recent
  · obtain ⟨f, hf, same, -⟩ := held_of_identity (sub.subset old)
    exact same ▸ (h a f hf).later hd
  · obtain ⟨k, -, hk, hid⟩ := new _ recent
    exact ⟨k, hk, hid⟩

/-- The id has been issued, and under it the daemon at the address holds entries of one workload
only. -/
structure Binds (d : Daemons) (a id u : String) : Prop where
  issued : d.HasIssued id
  held : ∀ e ∈ d.entriesAt a, e.id = id → e.uuid = u

theorem Binds.later (h : d.Binds a id u) (hd : d.Continues d') : d'.Binds a id u := by
  refine ⟨h.issued.later hd, fun e he hid => ?_⟩
  obtain ⟨k, hk, hissued⟩ := h.issued
  have before := hd.held_before (identity_mem he) hk (hid.trans hissued)
  obtain ⟨f, hf, ids, uuids⟩ := held_of_identity before
  exact uuids ▸ h.held f hf (ids.trans hid)

/-- A daemon that is called adds the entry that it is asked for, or none. -/
theorem answer_cases (d : Daemons) (c : DaemonCall) :
    (∃ a body, c = .create a body ∧ (d.answer c).2 = d.push a body) ∨ d.Dwindles (d.answer c).2 := by
  unfold answer
  split
  · exact .inr (.refl d)
  · cases c with
    | list a => exact .inr (.refl d)
    | create a body =>
      rw [serve]
      split
      · exact .inl ⟨a, body, rfl, rfl⟩
      · exact .inr (.refl d)
      · exact .inr (.refl d)
    | update a id body =>
      rw [serve]
      split
      · exact .inr (dwindles_amend d a id body)
      · exact .inr (.refl d)
    | delete a id => exact .inr (dwindles_filter d a _)
    | cacheReport a =>
      rw [serve]
      split <;> exact .inr (.refl d)

end Daemons

namespace World

variable {w : World} {a id : String} {last : Option Listing}

theorem Unscripted.answer_cases (hw : w.Unscripted) (c : Call) :
    (∃ a body, c = .daemon (.create a body) ∧ (w.answer c).2.daemons = w.daemons.push a body) ∨
      w.daemons.Dwindles (w.answer c).2.daemons := by
  cases c with
  | daemon c =>
    simp only [World.answer, hw.answerDaemon]
    rcases w.daemons.answer_cases c with ⟨a, body, rfl, pushed⟩ | dwindles
    · exact .inl ⟨a, body, rfl, pushed⟩
    · exact .inr dwindles
  | cluster c =>
    have same : (w.answer (.cluster c)).2.daemons = w.daemons := (w.answerCluster_daemons c).1
    rw [same]
    exact .inr (.refl w.daemons)
  | podCpus | enlist | dismiss => exact .inr (.refl w.daemons)

theorem Unscripted.answer_continues (hw : w.Unscripted) (c : Call) :
    w.daemons.Continues (w.answer c).2.daemons := by
  rcases hw.answer_cases c with ⟨a, body, -, pushed⟩ | dwindles
  · exact pushed ▸ .push w.daemons a body
  · exact dwindles.continues

/-- An entry that is there after a call and was not before is the one that the call created. -/
theorem Unscripted.answer_creates (hw : w.Unscripted) {c : Call}
    (absent : ∀ e ∈ w.daemons.entriesAt a, e.id ≠ id)
    (held : ∃ e ∈ (w.answer c).2.daemons.entriesAt a, e.id = id) :
    ∃ body, c = .daemon (.create a body) ∧ id = w.daemons.nextId ∧
      (w.answer c).2.daemons.Binds a id body.uuid := by
  obtain ⟨e, he, rfl⟩ := held
  rcases hw.answer_cases c with ⟨b, body, rfl, pushed⟩ | dwindles
  · rw [pushed] at he ⊢
    rcases Daemons.mem_entriesAt_push he with old | ⟨rfl, rfl⟩
    · exact absurd rfl (absent e old)
    refine ⟨body, rfl, rfl, ⟨w.daemons.issued, Nat.lt_succ_self _, rfl⟩, fun f hf hid => ?_⟩
    rcases Daemons.mem_entriesAt_push hf with old | ⟨-, rfl⟩
    · exact absurd hid (absent f old)
    · rfl
  · have before := (dwindles.tables a).subset (Daemons.identity_mem he)
    obtain ⟨f, hf, same, -⟩ := Daemons.held_of_identity before
    exact absurd same (absent f hf)

/-- What a daemon lists is what it holds. -/
theorem Unscripted.listed (hw : w.Unscripted) {l : List Entry}
    (h : (w.answer (.daemon (.list a))).1 = .ok l) : l = w.daemons.entriesAt a := by
  simp only [World.answer, hw.answerDaemon, Daemons.answer] at h
  split at h
  · cases h
  · exact (Except.ok.inj h).symm

/-- After a call a pass has the listing it had, or one of what is held. -/
theorem Unscripted.listing_after (hw : w.Unscripted) {c : Call} {l : Listing}
    (h : Listing.after last c (w.answer c).1 = some l) :
    last = some l ∨ l.entries = w.daemons.entriesAt l.address := by
  cases c with
  | daemon c =>
    cases c with
    | list a =>
      cases listed : (w.answer (.daemon (.list a))).1 with
      | error e => simp [listed, Listing.after] at h
      | ok entries =>
        rw [listed] at h
        cases h
        exact .inr (hw.listed listed)
    | _ => cases h
  | _ => exact .inl h

end World

/-- The request to a daemon with which a pass goes on, if it does with one. -/
def Pass.daemonCall? {α : Type} : Pass α → Option DaemonCall
  | .call (.daemon c) _ => some c
  | _ => none

theorem Pass.daemonCall?_eq_some {α : Type} {p : Pass α} {c : DaemonCall}
    (h : p.daemonCall? = some c) : ∃ next, p = .call (.daemon c) next := by
  cases p with
  | done => cases h
  | call c' next =>
    cases c' with
    | daemon c' =>
      obtain rfl : c' = c := Option.some.inj h
      exact ⟨next, rfl⟩
    | _ => cases h

namespace DaemonCall

variable {c : DaemonCall} {a id u : String} {entries : List Entry}

/-- The address and the id of the entry that a request is about, if it changes or deletes one. -/
def altered? : DaemonCall → Option (String × String)
  | .update a id _ | .delete a id => some (a, id)
  | _ => none

theorem writes_of_altered (h : c.altered? = some (a, id)) : c.writes = true ∧ c.address = a := by
  cases c with
  | update | delete => exact ⟨rfl, congrArg Prod.fst (Option.some.inj h)⟩
  | _ => cases h

/-- A change that listed entries call for is about an entry of the workload among them. -/
theorem Fits.altered (fits : c.Fits u entries) (h : c.altered? = some (a, id)) :
    ∃ e ∈ entries, e.uuid = u ∧ e.id = id := by
  have found : ∃ e, Entry.findByUuid entries u = some e ∧ e.id = id := by
    cases c with
    | update b id' body =>
      obtain ⟨rfl, rfl⟩ := Prod.mk.inj (Option.some.inj h)
      exact fits.2
    | delete b id' =>
      obtain ⟨rfl, rfl⟩ := Prod.mk.inj (Option.some.inj h)
      exact fits
    | _ => cases h
  obtain ⟨e, first, same⟩ := found
  obtain ⟨held, own⟩ := Entry.mem_of_findByUuid first
  exact ⟨e, held, own, same⟩

end DaemonCall

namespace Interleaving

variable {ι α : Type} {r r' : Interleaving ι α} {uuid : ι → String} {last : ι → Option Listing} {i : ι}
  {a id u : String}

/-- The address and the id of the entry that a workload's pass finds for it in the listing that it asks
for next. -/
def selected? (r : Interleaving ι α) (i : ι) (u : String) : Option (String × String) :=
  match (r.passes i).daemonCall? with
  | some (.list a) =>
    let found? := (r.world.answer (.daemon (.list a))).1.toOption.bind fun l => Entry.findByUuid l u
    found?.map fun e => (a, e.id)
  | _ => none

/-- The address and the id of the entry that a pass changes or deletes next. -/
def altered? (r : Interleaving ι α) (i : ι) : Option (String × String) :=
  (r.passes i).daemonCall?.bind DaemonCall.altered?

/-- The passes are careful on behalf of their workloads, given what each has listed last. -/
structure Led (uuid : ι → String) (last : ι → Option Listing) (r : Interleaving ι α) : Prop where
  quiet : r.world.Unscripted
  careful (i : ι) : (r.passes i).Careful (uuid i) (last i)

/-- What is found in a listing is held, and belongs to the workload. -/
theorem Led.selects (h : r.Led uuid last) (selects : r.selected? i u = some (a, id)) :
    ∃ e ∈ r.world.daemons.entriesAt a, e.uuid = u ∧ e.id = id := by
  unfold selected? at selects
  split at selects
  · next b asks =>
    obtain ⟨e, found, same⟩ := Option.map_eq_some_iff.mp selects
    obtain ⟨rfl, rfl⟩ := Prod.mk.inj same
    obtain ⟨l, answered, first⟩ := Option.bind_eq_some_iff.mp found
    obtain ⟨held, own⟩ := Entry.mem_of_findByUuid first
    cases answer : (r.world.answer (.daemon (.list b))).1 with
    | error e => simp [answer, Except.toOption] at answered
    | ok entries =>
      rw [answer] at answered
      obtain rfl : entries = l := Option.some.inj answered
      exact ⟨e, h.quiet.listed answer ▸ held, own, rfl⟩
  · cases selects

/-- What a careful pass changes or deletes is in its last listing, and belongs to its workload. -/
theorem Led.alters (h : r.Led uuid last) (alters : r.altered? i = some (a, id)) :
    ∃ l, last i = some l ∧ l.address = a ∧ ∃ e ∈ l.entries, e.uuid = uuid i ∧ e.id = id := by
  obtain ⟨c, asks, target⟩ := Option.bind_eq_some_iff.mp alters
  obtain ⟨next, calls⟩ := daemonCall?_eq_some asks
  obtain ⟨writes, here⟩ := DaemonCall.writes_of_altered target
  have careful := h.careful i
  rw [calls] at careful
  obtain ⟨l, listed, address, fits⟩ := careful.1 writes
  exact ⟨l, listed, address.trans here, fits.altered target⟩

variable [DecidableEq ι]

/-- What may happen next: one of the passes makes its next call, or the world is changed from outside.
There entries may go, and come under ids issued for them; no answers are laid down for daemons. -/
inductive Next (r : Interleaving ι α) : Interleaving ι α → Prop where
  | turn (i : ι) : Next r (r.turn i)
  | outside (w : World) (quiet : w.Unscripted) (continues : r.world.daemons.Continues w.daemons) :
      Next r { r with world := w }

/-- What happens next, any number of times. -/
abbrev Reaches : Interleaving ι α → Interleaving ι α → Prop := Relation.ReflTransGen Next

theorem reaches_run (r : Interleaving ι α) (order : List ι) : r.Reaches (r.run order) := by
  induction order generalizing r with
  | nil => exact .refl
  | cons i order ih => exact .head (.turn i) (ih (r.turn i))

/-- What each step keeps, for some listings that passes have made last, is kept all along. -/
theorem Reaches.keeps {P : (ι → Option Listing) → Interleaving ι α → Prop} (path : r.Reaches r')
    (next : ∀ {last s t}, P last s → s.Next t → ∃ last', P last' t) (h : P last r) :
    ∃ last', P last' r' := by
  induction path with
  | refl => exact ⟨last, h⟩
  | tail _ step ih =>
    obtain ⟨_, before⟩ := ih
    exact next before step

/-- The next call of a pass brings an entry under an id to a daemon that had none under it. -/
structure Creates (r : Interleaving ι α) (i : ι) (a id : String) : Prop where
  absent : ∀ e ∈ r.world.daemons.entriesAt a, e.id ≠ id
  held : ∃ e ∈ (r.turn i).world.daemons.entriesAt a, e.id = id

/-- Whatever happens next, entries continue, passes stay careful, and what a pass has listed last is
what it had listed or what was held. -/
theorem Led.next (h : r.Led uuid last) (step : r.Next r') :
    r.world.daemons.Continues r'.world.daemons ∧ ∃ last', r'.Led uuid last' ∧
      ∀ i l, last' i = some l → last i = some l ∨ l.entries = r.world.daemons.entriesAt l.address := by
  cases step with
  | outside w quiet continues => exact ⟨continues, last, ⟨quiet, h.careful⟩, fun _ _ => .inl⟩
  | turn i =>
    unfold Interleaving.turn
    split
    · exact ⟨.refl _, last, h, fun _ _ => .inl⟩
    · next c next calls =>
      have own : (Pass.call c next).Careful (uuid i) (last i) := calls ▸ h.careful i
      refine ⟨h.quiet.answer_continues c,
        Function.update last i (Listing.after (last i) c (r.world.answer c).1),
        ⟨h.quiet.answer c, fun j => ?_⟩, fun j l listed => ?_⟩
      · by_cases hj : j = i
        · subst hj
          simpa only [Function.update_self] using own.2 _
        · simpa only [Function.update_of_ne hj] using h.careful j
      · by_cases hj : j = i
        · subst hj
          rw [Function.update_self] at listed
          exact h.quiet.listing_after listed
        · rw [Function.update_of_ne hj] at listed
          exact .inl listed

theorem Led.reaches (h : r.Led uuid last) (path : r.Reaches r') :
    ∃ last', r.world.daemons.Continues r'.world.daemons ∧ r'.Led uuid last' := by
  refine path.keeps (P := fun last s => r.world.daemons.Continues s.world.daemons ∧ s.Led uuid last)
    (fun ⟨before, led⟩ step => ?_) ⟨.refl _, h⟩
  obtain ⟨continues, last', led', -⟩ := led.next step
  exact ⟨last', before.trans continues, led'⟩

/-- What a careful pass brings to a daemon belongs to its workload, under the id issued next. -/
theorem Led.creates (h : r.Led uuid last) (created : r.Creates i a id) :
    id = r.world.daemons.nextId ∧ (r.turn i).world.daemons.Binds a id (uuid i) := by
  obtain ⟨absent, held⟩ := created
  have careful := h.careful i
  unfold Interleaving.turn at held ⊢
  split at held
  · obtain ⟨e, he, same⟩ := held
    exact absurd same (absent e he)
  · next c next calls =>
    obtain ⟨body, rfl, fresh, binds⟩ := h.quiet.answer_creates absent held
    rw [calls] at careful
    obtain ⟨-, -, -, own, -⟩ := careful.1 rfl
    exact ⟨fresh, own ▸ binds⟩

/-- Everything held or listed last is under an id that has been issued. A pass can name an entry that is gone by
now; that its id is not another entry's then rests on ids being issued once only. -/
structure Counted (uuid : ι → String) (last : ι → Option Listing) (r : Interleaving ι α) : Prop
    extends Led uuid last r where
  numbered : r.world.daemons.Numbered
  listed (i : ι) (l : Listing) : last i = some l → ∀ e ∈ l.entries, r.world.daemons.HasIssued e.id

/-- Under the id, everything held or listed last at the address is of one workload. -/
structure Marked (uuid : ι → String) (a id u : String) (last : ι → Option Listing)
    (r : Interleaving ι α) : Prop extends Led uuid last r where
  binds : r.world.daemons.Binds a id u
  listed (i : ι) (l : Listing) : last i = some l → l.address = a →
    ∀ e ∈ l.entries, e.id = id → e.uuid = u

theorem Counted.next (h : r.Counted uuid last) (step : r.Next r') :
    ∃ last', r'.Counted uuid last' := by
  obtain ⟨continues, last', led, origin⟩ := h.toLed.next step
  refine ⟨last', led, h.numbered.later continues, fun i l now e he => ?_⟩
  rcases origin i l now with before | current
  · exact (h.listed i l before e he).later continues
  · exact (h.numbered l.address e (current ▸ he)).later continues

/-- A new id is in no listing yet. -/
theorem Counted.creates (h : r.Counted uuid last) (created : r.Creates i a id) :
    ∃ last', (r.turn i).Marked uuid a id (uuid i) last' := by
  obtain ⟨fresh, binds⟩ := h.toLed.creates created
  obtain ⟨-, last', led, origin⟩ := h.toLed.next (.turn i)
  refine ⟨last', led, binds, fun j l now here e he hid => ?_⟩
  have issued : r.world.daemons.HasIssued e.id := by
    rcases origin j l now with before | current
    · exact h.listed j l before e he
    · exact h.numbered l.address e (current ▸ he)
  rw [hid, fresh] at issued
  exact absurd issued (Daemons.not_hasIssued_nextId _)

theorem Marked.next (h : r.Marked uuid a id u last) (step : r.Next r') :
    ∃ last', r'.Marked uuid a id u last' := by
  obtain ⟨continues, last', led, origin⟩ := h.toLed.next step
  refine ⟨last', led, h.binds.later continues, fun i l now here e he hid => ?_⟩
  rcases origin i l now with before | current
  · exact h.listed i l before here e he hid
  · subst here
    exact h.binds.held e (current ▸ he) hid

/-- An entry that one pass creates is found for its workload only. -/
theorem Led.selects_own (h : r.Led uuid last) (created : r.Creates i a id)
    (after : (r.turn i).Reaches r') {j : ι} (selects : r'.selected? j (uuid j) = some (a, id)) :
    uuid i = uuid j := by
  obtain ⟨-, binds⟩ := h.creates created
  obtain ⟨-, _, led, -⟩ := h.next (.turn i)
  obtain ⟨_, continues, led⟩ := led.reaches after
  obtain ⟨e, he, own, same⟩ := led.selects selects
  exact ((binds.later continues).held e he same).symm.trans own

/-- Nor is it changed or deleted for others, if ids have been issued before they are used. -/
theorem Counted.alters_own (h : r.Counted uuid last) (created : r.Creates i a id)
    (after : (r.turn i).Reaches r') {j : ι} (alters : r'.altered? j = some (a, id)) :
    uuid i = uuid j := by
  obtain ⟨_, marked⟩ := h.creates created
  obtain ⟨_, marked⟩ := after.keeps Marked.next marked
  obtain ⟨l, listed, here, e, he, own, same⟩ := marked.toLed.alters alters
  exact (marked.listed j l listed here e he same).symm.trans own

end Interleaving

/-- External ids identify workloads. Where namespaces hold no point, two pairs of a name and a namespace
share an id only if they are the same; and whatever namespaces hold, the ids of one name in two of them
differ. Let passes of workloads interleave in any world without scripted answers, which may be changed
from outside meanwhile. If one of them creates an entry and one of them later finds that entry for its
workload in a listing, the workloads are the same, provided that ids tell them apart. So they are if the
later one changes or deletes the entry, and all entries were held under issued ids at the start. -/
theorem ids_tell_workloads_apart {ι : Type} [DecidableEq ι] {scheme : Scheme} {start : World}
    {jobs : ι → Job} (quiet : start.Unscripted) :
    (∀ name space name' space', '.' ∉ space.toList → '.' ∉ space'.toList →
      externalId name space = externalId name' space' → name = name' ∧ space = space') ∧
    (∀ name space space', space ≠ space' → externalId name space ≠ externalId name space') ∧
    ∀ (r r' : Interleaving ι JobResult) (i j : ι) (a id : String),
      Interleaving.Reaches ⟨start, fun i => (jobs i).pass scheme⟩ r → r.Creates i a id →
      (r.turn i).Reaches r' →
      r'.selected? j (jobs j).uuid = some (a, id) ∨
        (start.daemons.Numbered ∧ r'.altered? j = some (a, id)) →
      (jobs i).workload.Discernible (jobs j).workload →
      (jobs i).workload.key = (jobs j).workload.key := by
  refine ⟨fun _ _ _ _ plain plain' => eq_of_externalId plain plain',
    fun _ _ _ apart same => apart (space_eq_of_externalId same), ?_⟩
  intro r r' i j a id before created after touched discernible
  have led : Interleaving.Led (fun i => (jobs i).uuid) (fun _ => none)
      ⟨start, fun i => (jobs i).pass scheme⟩ := ⟨quiet, fun i => (jobs i).careful_pass scheme⟩
  refine discernible.key_eq ?_
  rcases touched with selects | ⟨numbered, alters⟩
  · obtain ⟨_, -, led⟩ := led.reaches before
    exact led.selects_own created after selects
  · have counted : Interleaving.Counted _ _ _ := ⟨led, numbered, fun _ _ listed => nomatch listed⟩
    obtain ⟨_, counted⟩ := before.keeps Interleaving.Counted.next counted
    exact counted.alters_own created after alters

/-- A workload that two teams have under one name. -/
def teamWorkload (space : String) : Workload where
  metadata := { name := some "cache", space := some space }
  spec := { nodes := ["n1"] }

/-- Both bring their entries to one node, and one of them removes its own. -/
def teamJobs : Fin 3 → Job
  | 0 => .sync (teamWorkload "team-a")
  | 1 => .sync (teamWorkload "team-b")
  | 2 => .remove (teamWorkload "team-a")

def teamsStart : World where
  cluster := ({} : Cluster).addDaemonNode "n1" "rmd" "10.0.0.1" 4

/-- The second team has its entry already and the first one is about to create its own. -/
def teamsMidway : Interleaving (Fin 3) JobResult :=
  Interleaving.run ⟨teamsStart, fun i => (teamJobs i).pass .http⟩ [0, 1, 0, 1, 0, 1, 1]

/-- The removal is about to list both entries. -/
def teamsListing : Interleaving (Fin 3) JobResult := (teamsMidway.turn 0).run [2, 1, 2, 0]

theorem ids_tell_workloads_apart_teams :
    let address := "http://10.0.0.1:8443"
    teamsMidway.Creates 0 address "2" ∧
    teamsListing.world.daemons.identitiesAt address = [⟨"1", "cache.team-b"⟩, ⟨"2", "cache.team-a"⟩] ∧
    teamsListing.selected? 2 (teamJobs 2).uuid = some (address, "2") ∧
    (teamsListing.turn 2).altered? 2 = some (address, "2") ∧
    (teamJobs 0).workload.key = (teamJobs 2).workload.key := by
  have created : teamsMidway.Creates 0 "http://10.0.0.1:8443" "2" :=
    ⟨by decide +kernel, by decide +kernel⟩
  have discernible : (teamJobs 0).workload.Discernible (teamJobs 2).workload :=
    .inl ⟨by decide, by decide⟩
  have quiet : teamsStart.Unscripted := fun _ _ => rfl
  have selects : teamsListing.selected? 2 (teamJobs 2).uuid = some ("http://10.0.0.1:8443", "2") := by
    decide +kernel
  refine ⟨created, by decide +kernel, selects, by decide +kernel, ?_⟩
  exact (@ids_tell_workloads_apart _ _ .http teamsStart teamJobs quiet).2.2 teamsMidway teamsListing 0 2
    _ _ (Interleaving.reaches_run _ _) created (Interleaving.reaches_run _ _) (.inl selects) discernible

end CachePartition
