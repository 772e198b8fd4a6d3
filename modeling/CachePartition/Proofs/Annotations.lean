import CachePartition.Derivation.Overrides
import CachePartition.Proofs.ByteOrder
import CachePartition.Proofs.UnsignedNumerals
import Mathlib.Data.List.Infix
import Mathlib.Data.List.Induction

/-! What the annotations of a pod set for a container. The annotations are taken in one after the other, by
ascending keys, and in the end each setting is what the greatest of the keys that offer something says. -/
namespace CachePartition

namespace Setting

/-- What a setting can be. -/
abbrev Value : Setting → Type
  | policy => String
  | mbaPercentage => UInt32
  | mbaMbps => UInt32
  | powerRatio => String
  | powerMonitoring => String

/-- What a setting is that nothing is said about. -/
def unset : (s : Setting) → s.Value
  | policy => ""
  | mbaPercentage => 0
  | mbaMbps => 0
  | powerRatio => ""
  | powerMonitoring => ""

/-- A text is acceptable as it is unless it is empty. -/
def AcceptsText (value v : String) : Prop := value ≠ "" ∧ v = value

/-- A decimal numeral between blanks is acceptable for a number of 32 bits. -/
def AcceptsNumber (value : String) (n : UInt32) : Prop :=
  Text.NumeralOf 10 (Text.trimBlanks value.toList) n.toNat

/-- What a setting is by an acceptable value. -/
def Accepts : (s : Setting) → String → s.Value → Prop
  | policy, value, v => AcceptsText value v
  | mbaPercentage, value, n => AcceptsNumber value n
  | mbaMbps, value, n => AcceptsNumber value n
  | powerRatio, value, v => AcceptsText value v
  | powerMonitoring, value, v => AcceptsText value v

/-- What a setting becomes by a value. -/
def accept? : (s : Setting) → String → Option s.Value
  | policy, value => acceptText? value
  | mbaPercentage, value => acceptNumber? value
  | mbaMbps, value => acceptNumber? value
  | powerRatio, value => acceptText? value
  | powerMonitoring, value => acceptText? value

theorem acceptText?_eq_some {value v : String} : acceptText? value = some v ↔ AcceptsText value v := by
  unfold acceptText? AcceptsText
  by_cases empty : value = ""
  · simp [empty]
  · simpa [empty] using eq_comm

theorem acceptNumber?_eq_some {value : String} {n : UInt32} :
    acceptNumber? value = some n ↔ AcceptsNumber value n := by
  unfold acceptNumber? AcceptsNumber
  have room : n.toNat < 1 <<< 32 := n.toNat_lt
  rw [Option.map_eq_some_iff]
  constructor
  · rintro ⟨m, read, rfl⟩
    obtain ⟨numeral, below⟩ := (Text.readDecimal?_eq_some (by decide)).mp read
    rwa [UInt32.toNat_ofNat_of_lt' below]
  · intro numeral
    exact ⟨n.toNat, (Text.readDecimal?_eq_some (by decide)).mpr ⟨numeral, room⟩, UInt32.ofNat_toNat⟩

theorem accept?_eq_some {s : Setting} {value : String} {v : s.Value} :
    s.accept? value = some v ↔ s.Accepts value v := by
  cases s with
  | policy | powerRatio | powerMonitoring => exact acceptText?_eq_some
  | mbaPercentage | mbaMbps => exact acceptNumber?_eq_some

/-- No key ends in the suffixes of two settings. -/
theorem eq_of_suffix {s s' : Setting} {key : List Char} (h : s.suffix.toList <:+ key)
    (h' : s'.suffix.toList <:+ key) : s = s' := by
  have apart (s s' : Setting) (inside : s.suffix.toList <:+ s'.suffix.toList) : s = s' := by
    revert inside
    cases s <;> cases s' <;> decide
  rcases List.suffix_or_suffix_of_suffix h h' with inside | inside
  · exact apart s s' inside
  · exact (apart s' s inside).symm

theorem mem_all (s : Setting) : s ∈ all := by
  cases s <;> decide

theorem ofKey?_eq_some {container key : String} {s : Setting} : ofKey? container key = some s ↔
    container.toList <+: key.toList ∧ s.suffix.toList <:+ key.toList := by
  unfold ofKey? Text.startsWith Text.endsWith
  split
  · next starts =>
    rw [List.isPrefixOf_iff_prefix] at starts
    constructor
    · intro found
      have ends := List.find?_some found
      exact ⟨starts, List.isSuffixOf_iff_suffix.mp ends⟩
    · rintro ⟨-, ends⟩
      cases found : all.find? fun s => s.suffix.toList.isSuffixOf key.toList with
      | none =>
        have unmatched := List.find?_eq_none.mp found s (mem_all s)
        exact absurd (List.isSuffixOf_iff_suffix.mpr ends) unmatched
      | some s' =>
        have ends' := List.find?_some found
        rw [eq_of_suffix (List.isSuffixOf_iff_suffix.mp ends') ends]
  · next apart =>
    rw [List.isPrefixOf_iff_prefix] at apart
    simp [apart]

end Setting

/-- An annotation offers a setting of a container a value: its key starts with the name of the container and
ends with the suffix of the setting, and its own value is acceptable. -/
structure Offers (container : String) (s : Setting) (key value : String) (v : s.Value) : Prop where
  starts : container.toList <+: key.toList
  ends : s.suffix.toList <:+ key.toList
  accepted : s.Accepts value v

namespace Overrides

variable {o : Overrides} {container key value : String} {s s' : Setting}

def get (o : Overrides) : (s : Setting) → s.Value
  | .policy => o.policy
  | .mbaPercentage => o.mbaPercentage
  | .mbaMbps => o.mbaMbps
  | .powerRatio => o.powerRatio
  | .powerMonitoring => o.powerMonitoring

theorem ext_get {o o' : Overrides} (h : ∀ s, o.get s = o'.get s) : o = o' := by
  cases o
  cases o'
  rw [mk.injEq]
  exact ⟨h .policy, h .mbaPercentage, h .mbaMbps, h .powerRatio, h .powerMonitoring⟩

@[simp] theorem get_default (s : Setting) : ({} : Overrides).get s = s.unset := by
  cases s <;> rfl

theorem get_set_self (o : Overrides) (value : String) (s : Setting) :
    (o.set value s).get s = (s.accept? value).getD (o.get s) := by
  cases s <;> rfl

theorem get_set_ne (o : Overrides) (value : String) (h : s' ≠ s) : (o.set value s).get s' = o.get s' := by
  cases s <;> cases s' <;> first | rfl | exact absurd rfl h

/-- An annotation sets what it offers. -/
theorem get_take_of_offers {v : s.Value} (h : Offers container s key value v) :
    (take container o (key, value)).get s = v := by
  have about := Setting.ofKey?_eq_some.mpr ⟨h.starts, h.ends⟩
  rw [take, about, Option.elim_some, get_set_self, Setting.accept?_eq_some.mpr h.accepted, Option.getD_some]

/-- It sets nothing else. -/
theorem get_take_of_not_offers (h : ∀ v, ¬ Offers container s key value v) :
    (take container o (key, value)).get s = o.get s := by
  unfold take
  cases about : Setting.ofKey? container key with
  | none => rfl
  | some s' =>
    rw [Option.elim_some]
    by_cases same : s = s'
    · subst same
      obtain ⟨starts, ends⟩ := Setting.ofKey?_eq_some.mp about
      have refused : s.accept? value = none :=
        Option.eq_none_iff_forall_ne_some.mpr fun v accepted =>
          h v ⟨starts, ends, Setting.accept?_eq_some.mp accepted⟩
      rw [get_set_self, refused, Option.getD_none]
    · exact get_set_ne o value same

end Overrides

/-- What a setting of a container is by some annotations: what the greatest key says that offers something, or
unset. -/
inductive Settled (container : String) (s : Setting) (l : List (String × String)) : s.Value → Prop where
  | unset (silent : ∀ e ∈ l, ∀ v, ¬ Offers container s e.1 e.2 v) : Settled container s l s.unset
  | given {e : String × String} {v : s.Value} (mem : e ∈ l) (offers : Offers container s e.1 e.2 v)
      (greatest : ∀ e' ∈ l, ∀ v', Offers container s e'.1 e'.2 v' → e'.1 ≤ e.1) :
    Settled container s l v

/-- Among the annotations is one with a key that offers a setting of a container a value. -/
def Offered (annotations : TextMap String) (container : String) (s : Setting) (key : String) (v : s.Value) :
    Prop :=
  ∃ value, annotations.get? key = some value ∧ Offers container s key value v

/-- A key offers a setting of a container a value, and no key that is greater by its bytes offers it one. -/
structure Decides (annotations : TextMap String) (container : String) (s : Setting) (key : String)
    (v : s.Value) : Prop where
  offered : Offered annotations container s key v
  greatest : ∀ key' v', Offered annotations container s key' v' →
    Text.utf8Bytes key'.toList ≤ Text.utf8Bytes key.toList

section Taking

variable {container : String} {s : Setting} {l : List (String × String)} {e : String × String}

/-- One more annotation, behind the others. -/
theorem Settled.take {o : Overrides} (h : Settled container s l (o.get s))
    (behind : ∀ e' ∈ l, e'.1 < e.1) :
    Settled container s (l ++ [e]) ((Overrides.take container o e).get s) := by
  by_cases offer : ∃ v, Offers container s e.1 e.2 v
  · obtain ⟨v, offers⟩ := offer
    rw [Overrides.get_take_of_offers offers]
    apply Settled.given (List.mem_append_right _ List.mem_cons_self) offers
    intro e' mem v' _
    rcases List.mem_append.mp mem with before | last
    · exact String.not_lt.mp fun ahead => String.lt_irrefl _ (String.lt_trans (behind e' before) ahead)
    · obtain rfl := List.mem_singleton.mp last
      exact String.le_refl _
  · rw [not_exists] at offer
    rw [Overrides.get_take_of_not_offers offer]
    have only {e' : String × String} {v' : s.Value} (mem : e' ∈ l ++ [e])
        (offers : Offers container s e'.1 e'.2 v') : e' ∈ l := by
      rcases List.mem_append.mp mem with before | last
      · exact before
      · rw [List.mem_singleton.mp last] at offers
        exact absurd offers (offer v')
    generalize o.get s = w at h ⊢
    cases h with
    | unset silent => exact .unset fun e' mem v' offers => silent e' (only mem offers) v' offers
    | given mem offers greatest =>
      apply Settled.given (List.mem_append_left _ mem) offers
      intro e' mem' v' offers'
      exact greatest e' (only mem' offers') v' offers'

/-- The settings are right for the annotations taken in so far. -/
theorem settled_foldl (s : Setting) (ascending : l.Pairwise fun a b => a.1 < b.1) :
    Settled container s l ((l.foldl (Overrides.take container) {}).get s) := by
  induction l using List.reverseRecOn with
  | nil => exact Overrides.get_default s ▸ .unset nofun
  | append_singleton l e ih =>
    obtain ⟨sorted, -, behind⟩ := List.pairwise_append.mp ascending
    rw [List.foldl_append]
    exact (ih sorted).take fun e' mem => behind e' mem e List.mem_cons_self

end Taking

section Annotations

variable {annotations : TextMap String} {container : String} {s : Setting} {key key' : String}
  {v v' : s.Value}

theorem Offered.value_eq (h : Offered annotations container s key v)
    (h' : Offered annotations container s key v') : v = v' := by
  obtain ⟨value, bound, offers⟩ := h
  obtain ⟨value', bound', offers'⟩ := h'
  obtain rfl := Option.some.inj (bound.symm.trans bound')
  have accepted := Setting.accept?_eq_some.mpr offers.accepted
  exact Option.some.inj (accepted.symm.trans (Setting.accept?_eq_some.mpr offers'.accepted))

theorem Decides.eq (h : Decides annotations container s key v)
    (h' : Decides annotations container s key' v') : key = key' ∧ v = v' := by
  have below := Text.utf8Bytes_le_iff.mp (h'.greatest _ _ h.offered)
  have above := Text.utf8Bytes_le_iff.mp (h.greatest _ _ h'.offered)
  obtain rfl := String.le_antisymm below above
  exact ⟨rfl, h.offered.value_eq h'.offered⟩

/-- Each setting is decided by a key, or unset if no key offers it a value. -/
theorem decides_or_unset (annotations : TextMap String) (container : String) (s : Setting) :
    let o := Overrides.ofAnnotations annotations container
    (∃ key, Decides annotations container s key (o.get s)) ∨
      (∀ key v, ¬ Offered annotations container s key v) ∧ o.get s = s.unset := by
  intro o
  have settled : Settled container s annotations.entries (o.get s) := settled_foldl s annotations.ascending
  have entry {key : String} {v : s.Value} (h : Offered annotations container s key v) :
      ∃ value, (key, value) ∈ annotations.entries ∧ Offers container s key value v := by
    obtain ⟨value, bound, offers⟩ := h
    exact ⟨value, SortedMap.get?_eq_some_iff.mp bound, offers⟩
  generalize o.get s = v at settled
  cases settled with
  | unset silent =>
    right
    constructor
    · intro key v offered
      obtain ⟨value, mem, offers⟩ := entry offered
      exact silent _ mem v offers
    · rfl
  | @given e _ mem offers greatest =>
    left
    refine ⟨e.1, ⟨e.2, SortedMap.get?_eq_some_iff.mpr mem, offers⟩, ?_⟩
    intro key' v' offered
    obtain ⟨value', mem', offers'⟩ := entry offered
    exact Text.utf8Bytes_le_iff.mpr (greatest _ mem' v' offers')

theorem Decides.get_eq (h : Decides annotations container s key v) :
    (Overrides.ofAnnotations annotations container).get s = v := by
  rcases decides_or_unset annotations container s with ⟨_, decides⟩ | ⟨silent, -⟩
  · exact (decides.eq h).2
  · exact absurd h.offered (silent key v)

theorem get_eq_unset (silent : ∀ key v, ¬ Offered annotations container s key v) :
    (Overrides.ofAnnotations annotations container).get s = s.unset := by
  rcases decides_or_unset annotations container s with ⟨key, decides⟩ | ⟨-, unset⟩
  · exact absurd decides.offered (silent key _)
  · exact unset

/-- Annotations that offer the same to a container set the same. -/
theorem ofAnnotations_congr {annotations annotations' : TextMap String}
    (same : ∀ s key v, Offered annotations container s key v ↔ Offered annotations' container s key v) :
    Overrides.ofAnnotations annotations container = Overrides.ofAnnotations annotations' container := by
  apply Overrides.ext_get
  intro s
  rcases decides_or_unset annotations' container s with ⟨key, decides⟩ | ⟨silent, unset⟩
  · apply Decides.get_eq
    constructor
    · exact (same s key _).mpr decides.offered
    · intro key' v' offered
      exact decides.greatest key' v' ((same s key' v').mp offered)
  · rw [unset]
    apply get_eq_unset
    intro key v offered
    exact silent key v ((same s key v).mp offered)

/-- An annotation that offers nothing is as good as none. -/
theorem offered_insert {value : String} (idle : ∀ s v, ¬ Offers container s key value v) :
    Offered (annotations.insert key value) container s key' v ↔
      Offered (annotations.erase key) container s key' v := by
  unfold Offered
  by_cases same : key' = key
  · subst same
    simp [idle]
  · rw [SortedMap.get?_insert_ne _ same, SortedMap.get?_erase_ne _ same]

end Annotations

/-- Each setting of a container is what the greatest key says that starts with the name of the container, ends
with the suffix of the setting and has an acceptable value, and unset if there is none. No key is about two
settings. An annotation that offers nothing, for its key or for its value, sets and clears nothing. -/
theorem settings_by_greatest_key (annotations : TextMap String) (container : String) :
    let o := Overrides.ofAnnotations annotations container
    (∀ s, (∃ key, Decides annotations container s key (o.get s)) ∨
      (∀ key v, ¬ Offered annotations container s key v) ∧ o.get s = s.unset) ∧
    (∀ (key : String) (s s' : Setting), s.suffix.toList <:+ key.toList → s'.suffix.toList <:+ key.toList →
      s = s') ∧
    ∀ key value, (∀ s v, ¬ Offers container s key value v) →
      Overrides.ofAnnotations (annotations.insert key value) container =
        Overrides.ofAnnotations (annotations.erase key) container := by
  intro o
  refine ⟨decides_or_unset annotations container, ?_, ?_⟩
  · intro key s s' ends ends'
    exact Setting.eq_of_suffix ends ends'
  · intro key value idle
    exact ofAnnotations_congr fun s key' v => offered_insert idle

/-- Annotations for a container and for one beside it, with a number between blanks. -/
def sidecarAnnotations : TextMap String :=
  .ofList [("web_policy", "gold"), ("web-sidecar_policy", "silver"), ("web_mba_mbps", " +0100\n")]

/-- A later number that cannot be read does not clear the one before. -/
theorem settings_by_greatest_key_unread :
    let later := sidecarAnnotations.insert "web_z_mba_mbps" "fast"
    (∀ s v, ¬ Offers "web" s "web_z_mba_mbps" "fast" v) ∧
    Overrides.ofAnnotations later "web" = { policy := "gold", mbaMbps := 100 } := by
  intro later
  have idle (s : Setting) (v : s.Value) : ¬ Offers "web" s "web_z_mba_mbps" "fast" v := by
    intro offers
    have about : Setting.ofKey? "web" "web_z_mba_mbps" = some s :=
      Setting.ofKey?_eq_some.mpr ⟨offers.starts, offers.ends⟩
    have own : Setting.ofKey? "web" "web_z_mba_mbps" = some .mbaMbps := by decide +kernel
    obtain rfl := Option.some.inj (own.symm.trans about)
    have unread : acceptNumber? "fast" = none := by decide +kernel
    cases unread.symm.trans (Setting.accept?_eq_some.mpr offers.accepted)
  have same := (settings_by_greatest_key sidecarAnnotations "web").2.2 _ _ idle
  have before : Overrides.ofAnnotations (sidecarAnnotations.erase "web_z_mba_mbps") "web" =
      { policy := "gold", mbaMbps := 100 } := by decide +kernel
  exact ⟨idle, same.trans before⟩

end CachePartition
