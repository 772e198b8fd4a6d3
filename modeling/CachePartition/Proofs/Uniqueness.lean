import CachePartition.Proofs.Conduct
import CachePartition.World.Scenario

/-! Entries in scenarios. From the empty world on, whatever is done from outside and whichever passes
run, a daemon holds at most one entry of a workload, ids are distinct over all daemons, and an entry
keeps its id, its workload and its address until it is gone for good. -/
namespace CachePartition

namespace Daemons

variable {d d' : Daemons} {u a : String}

/-- What every step of a scenario does to daemons. -/
structure Evolves (d d' : Daemons) : Prop where
  continues : d.Continues d'
  sound : d.Sound → d'.Sound

theorem Evolves.refl (d : Daemons) : d.Evolves d := ⟨.refl d, id⟩

theorem Evolves.trans {d'' : Daemons} (h : d.Evolves d') (h' : d'.Evolves d'') : d.Evolves d'' :=
  ⟨h.continues.trans h'.continues, h'.sound ∘ h.sound⟩

theorem Evolves.of_dwindles (h : d.Dwindles d') : d.Evolves d' := ⟨h.continues, h.sound⟩

theorem Evolves.of_changes (h : Relation.ReflTransGen (Change u) d d') : d.Evolves d' := by
  induction h with
  | refl => exact .refl d
  | tail _ change ih => exact ih.trans ⟨change.continues, change.sound⟩

theorem evolves_insert (absent : ∀ e ∈ d.entriesAt a, e.uuid ≠ u) : d.Evolves (d.insert a u) :=
  ⟨.push d a _, fun h => h.push absent⟩

theorem evolves_forget (d : Daemons) (a u : String) : d.Evolves (d.forget a u) :=
  .of_dwindles (dwindles_filter d a _)

/-- An id that is held no more is held never again. -/
theorem Continues.gone {d'' : Daemons} (h : d.Continues d') (h' : d'.Continues d'') (sound : d.Sound)
    {e f : Entry} {b : String} (he : e ∈ d.entriesAt a)
    (absent : ∀ g ∈ d'.entriesAt a, g.id ≠ e.id) (hf : f ∈ d''.entriesAt b) : f.id ≠ e.id := by
  intro hid
  obtain ⟨rfl, -⟩ := (h.trans h').same_identity sound (identity_mem he) (identity_mem hf) hid
  obtain ⟨k, hk, hek⟩ := sound.issued (identity_mem he)
  have before := h'.held_before (identity_mem hf) (Nat.lt_of_lt_of_le hk h.issued) (hid.trans hek)
  obtain ⟨g, hg, same, -⟩ := held_of_identity before
  exact absent g hg (same.trans hid)

end Daemons

namespace Scenario

/-- Entries may be put from outside where the workload has none; answers of daemons are not laid down. -/
def Permits (s : Scenario) : Step → Prop
  | .insert address uuid => ∀ e ∈ s.world.daemons.entriesAt address, e.uuid ≠ uuid
  | .script _ _ _ => False
  | _ => True

/-- The scenarios that permitted steps lead to, in any number and any order. -/
inductive Reaches (s : Scenario) : Scenario → Prop where
  | refl : Reaches s s
  | step {t : Scenario} (x : Step) : Reaches s t → t.Permits x → Reaches s (t.step x).next

variable {s t : Scenario} {u : String}

/-- A careful pass run in a scenario only lets its daemons evolve. -/
theorem evolves_of_careful {α : Type} {p : Pass α} (hw : s.world.Unscripted) (hp : p.Careful u none) :
    (s.world.run p).state.Unscripted ∧ s.world.daemons.Evolves (s.world.run p).state.daemons := by
  obtain ⟨quiet, changes⟩ := World.run_careful hp hw (Daemons.shows_none _ u)
  exact ⟨quiet, .of_changes changes⟩

theorem step_evolves {x : Step} (hw : s.world.Unscripted) (hx : s.Permits x) :
    (s.step x).next.world.Unscripted ∧ s.world.daemons.Evolves (s.step x).next.world.daemons := by
  cases x with
  | insert address uuid => exact ⟨hw, Daemons.evolves_insert hx⟩
  | forgetEntry address uuid => exact ⟨hw, Daemons.evolves_forget _ _ _⟩
  | script => exact hx.elim
  | sync w source => exact evolves_of_careful hw (careful_sync s.scheme _)
  | remove w source => exact evolves_of_careful hw (careful_remove s.scheme _)
  | syncAndEvict w source => exact evolves_of_careful hw (careful_syncAndEvict s.scheme _)
  | poll n => exact evolves_of_careful (u := "") hw (careful_poll s.scheme n)
  | forget n => exact evolves_of_careful (u := "") hw (careful_forget n)
  | deriveAndApply p agentPod => exact evolves_of_careful (u := "") hw (careful_deriveAndApply p agentPod)
  | _ => exact ⟨hw, .of_dwindles ⟨rfl, fun _ => List.Sublist.refl _⟩⟩

theorem Reaches.evolves (h : s.Reaches t) (hw : s.world.Unscripted) :
    t.world.Unscripted ∧ s.world.daemons.Evolves t.world.daemons := by
  induction h with
  | refl => exact ⟨hw, .refl _⟩
  | step x _ permitted ih =>
    obtain ⟨quiet, evolves⟩ := step_evolves ih.1 permitted
    exact ⟨quiet, ih.2.trans evolves⟩

/-- Tables that scenarios reach are sound. -/
theorem Reaches.sound {scheme : Scheme} (h : Reaches { scheme } s) : s.world.daemons.Sound :=
  (h.evolves fun _ _ => rfl).2.sound .empty

/-- In every scenario reached from the empty world, each daemon holds at most one entry of a workload and
no id occurs twice. Each entry held then is held later under its id, for its workload and at its
address, or its id never occurs again. -/
theorem entries_unique_and_lasting {scheme : Scheme} (h : Reaches { scheme } s) :
    (∀ a u, (Entry.owned u (s.world.daemons.entriesAt a)).length ≤ 1) ∧
    (∀ a b (i j : Nat) (e f : Entry), (s.world.daemons.entriesAt a)[i]? = some e →
      (s.world.daemons.entriesAt b)[j]? = some f → e.id = f.id → a = b ∧ i = j) ∧
    ∀ t, s.Reaches t → ∀ a, ∀ e ∈ s.world.daemons.entriesAt a,
      (∃ f ∈ t.world.daemons.entriesAt a, f.id = e.id ∧ f.uuid = e.uuid) ∨
      ∀ v, t.Reaches v → ∀ b, ∀ f ∈ v.world.daemons.entriesAt b, f.id ≠ e.id := by
  have sound := h.sound
  have quiet := (h.evolves fun _ _ => rfl).1
  refine ⟨fun a u => (sound.distinct a).length_owned_le u, ?_, ?_⟩
  · intro a b i j e f he hf hid
    obtain rfl := sound.apart (Daemons.identity_mem (List.mem_of_getElem? he))
      (Daemons.identity_mem (List.mem_of_getElem? hf)) hid
    exact ⟨rfl, (sound.distinct a).index_eq he hf hid⟩
  · intro t ht a e he
    obtain ⟨quiet', toT⟩ := ht.evolves quiet
    by_cases kept : ∃ g ∈ t.world.daemons.entriesAt a, g.id = e.id
    · obtain ⟨g, hg, hid⟩ := kept
      obtain ⟨-, same⟩ := toT.continues.same_identity sound (Daemons.identity_mem he)
        (Daemons.identity_mem hg) hid
      exact .inl ⟨g, hg, hid, congrArg (·.uuid) same⟩
    · refine .inr fun v hv b f hf => ?_
      obtain ⟨-, toV⟩ := hv.evolves quiet'
      exact toT.continues.gone toV.continues sound he (fun g hg hid => kept ⟨g, hg, hid⟩) hf

/-- Two nodes behind one daemon address, and a workload that is to be on both. -/
def sharedAddress : Scenario :=
  let nodes := ((({} : Scenario).step (.addDaemonNode "n1" "rmd" "10.0.0.1" 4)).next.step
    (.addDaemonNode "n2" "rmd" "10.0.0.1" 4)).next
  (nodes.step (.sync { metadata := { name := some "w" }, spec := { nodes := ["n1", "n2"] } } .own)).next

theorem reaches_sharedAddress : Reaches {} sharedAddress :=
  .step _ (.step _ (.step _ .refl trivial) trivial) trivial

/-- The entry is created for the first node and found again for the second. -/
theorem entries_unique_and_lasting_sharedAddress :
    Reaches {} sharedAddress ∧
    (sharedAddress.world.daemons.entriesAt "http://10.0.0.1:8443").map Entry.identity =
      [⟨"1", "w."⟩] ∧
    (Entry.owned "w." (sharedAddress.world.daemons.entriesAt "http://10.0.0.1:8443")).length ≤ 1 := by
  have reached := reaches_sharedAddress
  refine ⟨reached, by decide +kernel, ?_⟩
  exact (entries_unique_and_lasting reached).1 _ _

end Scenario

end CachePartition
