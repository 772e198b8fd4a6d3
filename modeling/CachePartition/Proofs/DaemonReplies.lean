import CachePartition.Daemon.Http
import CachePartition.Text.Blank
import Mathlib.Data.List.TakeWhile

/-! What a daemon's answers are taken for. Each answer over the wire means one thing for the call it answers,
and none that is incomplete, refused or unreadable is taken for a success. -/
namespace CachePartition

/-- A body of nothing but blanks. -/
def BlankBody (body : List UInt8) : Prop := ∀ x ∈ (Text.ofUtf8Lossy body).toList, Text.isBlank x = true

/-- What a body tells as a data text. -/
def bodyAs? {α : Type} (read? : Json → Option α) (body : List UInt8) : Option α :=
  (Json.read? (Text.ofUtf8Lossy body)).bind read?

namespace DaemonCall

/-- The statuses by which a daemon grants a call. -/
def successes : DaemonCall → List Nat
  | .create _ _ => [200, 201]
  | _ => [200]

/-- The call asks for data, and a body holds something else. -/
def Misread (body : List UInt8) : DaemonCall → Prop
  | .list _ => ¬ BlankBody body ∧ bodyAs? (Json.list? Entry.ofJson?) body = none
  | .cacheReport _ => ¬ BlankBody body ∧ bodyAs? CacheReport.ofJson? body = none
  | _ => False

/-- How a call fails by a reply. An answer that does not arrive as a whole is none, whatever its status. -/
inductive Fails (c : DaemonCall) : HttpReply → DaemonError → Prop where
  | unanswered : c.Fails .broken (.transport c.address)
  | cutOff (status : Nat) (begun : List UInt8) : c.Fails (.cutOff status begun) (.transport c.address)
  | refused {status : Nat} {body : List UInt8} (ungranted : status ∉ c.successes) :
    c.Fails (.complete status body) (.rejected status (Text.trim (Text.ofUtf8Lossy body)))
  | misread {body : List UInt8} (misread : c.Misread body) : c.Fails (.complete 200 body) .decode

/-- What a reply means for a call. -/
inductive Means : (c : DaemonCall) → HttpReply → c.Answer → Prop where
  | failed {c : DaemonCall} {reply : HttpReply} {e : DaemonError} (fails : c.Fails reply e) :
    c.Means reply (c.failed e)
  | noEntries {a : String} {body : List UInt8} (blank : BlankBody body) :
    (DaemonCall.list a).Means (.complete 200 body) (.ok [])
  | entries {a : String} {body : List UInt8} {entries : List Entry} (filled : ¬ BlankBody body)
      (told : bodyAs? (Json.list? Entry.ofJson?) body = some entries) :
    (DaemonCall.list a).Means (.complete 200 body) (.ok entries)
  | noReport {a : String} {body : List UInt8} (blank : BlankBody body) :
    (DaemonCall.cacheReport a).Means (.complete 200 body) (.ok {})
  | report {a : String} {body : List UInt8} {report : CacheReport} (filled : ¬ BlankBody body)
      (told : bodyAs? CacheReport.ofJson? body = some report) :
    (DaemonCall.cacheReport a).Means (.complete 200 body) (.ok report)
  | created {a : String} {e : Entry} {status : Nat} {body : List UInt8} (granted : status = 200 ∨ status = 201) :
    (DaemonCall.create a e).Means (.complete status body) (.ok ("Success: " ++ Text.decimal status))
  | updated {a id : String} {e : Entry} {body : List UInt8} :
    (DaemonCall.update a id e).Means (.complete 200 body) (.ok "Success: 200")
  | deleted {a id : String} {body : List UInt8} :
    (DaemonCall.delete a id).Means (.complete 200 body) (.ok ())

end DaemonCall

theorem Text.trimBlanks_eq_nil {s : List Char} : trimBlanks s = [] ↔ ∀ x ∈ s, isBlank x = true := by
  constructor
  · intro trimmed x mem
    obtain ⟨a, b, split, before, after⟩ := trimBlanks_split s
    rw [trimmed, List.append_nil] at split
    rw [split] at mem
    rcases List.mem_append.mp mem with mem | mem
    · exact before x mem
    · exact after x mem
  · intro blank
    have nothing : s.dropWhile isBlank = [] := List.dropWhile_eq_nil_iff.mpr blank
    rw [trimBlanks, nothing]
    rfl

section Bodies

variable {α : Type} {read? : Json → Option α} {blank : α} {status : Nat} {body : List UInt8}

theorem isEmpty_trimBlanks (body : List UInt8) :
    (Text.trimBlanks (Text.ofUtf8Lossy body).toList).isEmpty = true ↔ BlankBody body := by
  rw [List.isEmpty_iff, Text.trimBlanks_eq_nil, BlankBody]

theorem readBody_refused (ungranted : status ≠ 200) :
    readBody read? blank status (Text.ofUtf8Lossy body) =
      .error (.rejected status (Text.trim (Text.ofUtf8Lossy body))) := by
  simp only [readBody, rejectedBy, ungranted, ne_eq, not_false_eq_true, if_true]

theorem readBody_blank (h : BlankBody body) :
    readBody read? blank 200 (Text.ofUtf8Lossy body) = .ok blank := by
  simp only [readBody, (isEmpty_trimBlanks body).mpr h, ne_eq, not_true_eq_false, if_false, if_true]

theorem readBody_filled (h : ¬ BlankBody body) :
    readBody read? blank 200 (Text.ofUtf8Lossy body) =
      match bodyAs? read? body with
      | some a => .ok a
      | none => .error .decode := by
  rw [← isEmpty_trimBlanks] at h
  unfold readBody bodyAs?
  exact (if_neg (by simp)).trans (if_neg h)

/-- A body is blank, tells something or tells nothing. -/
theorem body_cases (read? : Json → Option α) (body : List UInt8) :
    BlankBody body ∨ (¬ BlankBody body ∧ bodyAs? read? body = none) ∨
      ∃ a, ¬ BlankBody body ∧ bodyAs? read? body = some a := by
  by_cases blank : BlankBody body
  · exact .inl blank
  · cases told : bodyAs? read? body with
    | none => exact .inr (.inl ⟨blank, rfl⟩)
    | some a => exact .inr (.inr ⟨a, blank, rfl⟩)

end Bodies

namespace DaemonCall

variable {c : DaemonCall} {base : String} {network : HttpRequest → HttpReply} {request : HttpRequest}
  {reply : HttpReply} {answer : c.Answer} {status : Nat} {body : List UInt8}

theorem ofReply_refused (ungranted : status ∉ c.successes) :
    c.ofReply status (Text.ofUtf8Lossy body) =
      c.failed (.rejected status (Text.trim (Text.ofUtf8Lossy body))) := by
  cases c with
  | list _ => exact readBody_refused (by simpa [successes] using ungranted)
  | cacheReport _ => exact readBody_refused (by simpa [successes] using ungranted)
  | create _ _ => exact if_neg ungranted
  | update _ _ _ => exact if_neg ungranted
  | delete _ _ => exact congrArg (Except.map _) (if_neg ungranted)

theorem ofReply_misread (misread : c.Misread body) :
    c.ofReply 200 (Text.ofUtf8Lossy body) = c.failed .decode := by
  cases c with
  | list _ => simp only [ofReply, failed, readBody_filled misread.1, misread.2]
  | cacheReport _ => simp only [ofReply, failed, readBody_filled misread.1, misread.2]
  | create _ _ => exact misread.elim
  | update _ _ _ => exact misread.elim
  | delete _ _ => exact misread.elim

/-- What a reply means is what is made of it. -/
theorem Means.overHttp_eq (made : c.requestAt base = .ok request)
    (h : c.Means (network request) answer) : c.overHttp network base = answer := by
  simp only [overHttp, made]
  generalize network request = reply at h
  cases h with
  | failed fails =>
    cases fails with
    | unanswered => rfl
    | cutOff status begun => rfl
    | refused ungranted => exact ofReply_refused ungranted
    | misread misread => exact ofReply_misread misread
  | noEntries blank => exact readBody_blank blank
  | entries filled told => simp only [ofReply, readBody_filled filled, told]
  | noReport blank => exact readBody_blank blank
  | report filled told => simp only [ofReply, readBody_filled filled, told]
  | created granted => exact if_pos (by simpa using granted)
  | updated => rfl
  | deleted => rfl

/-- No reply is without a meaning for a call. -/
theorem exists_means (c : DaemonCall) (reply : HttpReply) : ∃ answer, c.Means reply answer := by
  cases reply with
  | broken => exact ⟨_, .failed .unanswered⟩
  | cutOff status begun => exact ⟨_, .failed (.cutOff status begun)⟩
  | complete status body =>
    by_cases granted : status ∈ c.successes
    · cases c with
      | list _ =>
        obtain rfl := List.mem_singleton.mp granted
        rcases body_cases (Json.list? Entry.ofJson?) body with blank | misread | ⟨entries, filled, told⟩
        · exact ⟨_, .noEntries blank⟩
        · exact ⟨_, .failed (.misread misread)⟩
        · exact ⟨_, .entries filled told⟩
      | cacheReport _ =>
        obtain rfl := List.mem_singleton.mp granted
        rcases body_cases CacheReport.ofJson? body with blank | misread | ⟨report, filled, told⟩
        · exact ⟨_, .noReport blank⟩
        · exact ⟨_, .failed (.misread misread)⟩
        · exact ⟨_, .report filled told⟩
      | create _ _ => exact ⟨_, .created (by simpa [successes] using granted)⟩
      | update _ _ _ =>
        obtain rfl := List.mem_singleton.mp granted
        exact ⟨_, .updated⟩
      | delete _ _ =>
        obtain rfl := List.mem_singleton.mp granted
        exact ⟨_, .deleted⟩
    · exact ⟨_, .failed (.refused granted)⟩

/-- A call that is made is answered by what the reply means. -/
theorem overHttp_iff_means (made : c.requestAt base = .ok request) :
    c.overHttp network base = answer ↔ c.Means (network request) answer := by
  constructor
  · rintro rfl
    obtain ⟨answer, means⟩ := c.exists_means (network request)
    rw [means.overHttp_eq made]
    exact means
  · exact Means.overHttp_eq made

theorem failed_inj {e e' : DaemonError} (same : c.failed e = c.failed e') : e = e' := by
  cases c <;> exact Except.error.inj same

theorem means_failed_iff {e : DaemonError} : c.Means reply (c.failed e) ↔ c.Fails reply e := by
  constructor
  · intro h
    -- A failure is told apart from the other answers call by call, so it is named before the cases.
    generalize same : c.failed e = answer at h
    cases h with
    | failed fails => exact failed_inj same ▸ fails
    | noEntries | entries | noReport | report | created | updated | deleted => nomatch same
  · exact Means.failed

/-- Data are asked for with one status that grants it. -/
theorem Misread.mem_successes_iff (misread : c.Misread body) : status ∈ c.successes ↔ status = 200 := by
  cases c with
  | list _ => exact List.mem_singleton
  | cacheReport _ => exact List.mem_singleton
  | create _ _ => exact misread.elim
  | update _ _ _ => exact misread.elim
  | delete _ _ => exact misread.elim

/-- No failure comes of a reply just when it arrives as a whole, grants the call and holds what is asked for. -/
theorem forall_not_fails_iff :
    (∀ e, ¬ c.Fails reply e) ↔
      ∃ status body, reply = .complete status body ∧ status ∈ c.successes ∧ ¬ c.Misread body := by
  constructor
  · intro unfailed
    cases reply with
    | broken => exact absurd .unanswered (unfailed _)
    | cutOff status begun => exact absurd (.cutOff status begun) (unfailed _)
    | complete status body =>
      have granted : status ∈ c.successes := by
        by_contra ungranted
        exact unfailed _ (.refused ungranted)
      refine ⟨status, body, rfl, granted, fun misread => ?_⟩
      obtain rfl := misread.mem_successes_iff.mp granted
      exact unfailed _ (.misread misread)
  · rintro ⟨status, body, rfl, granted, held⟩ e fails
    cases fails with
    | refused ungranted => exact ungranted granted
    | misread misread => exact held misread

/-- A daemon is taken to hold no entries only by a body that says so or says nothing. -/
theorem list_nothing_iff {a : String} (made : (list a).requestAt base = .ok request) :
    (list a).overHttp network base = .ok [] ↔
      ∃ body, network request = .complete 200 body ∧
        (BlankBody body ∨ bodyAs? (Json.list? Entry.ofJson?) body = some []) := by
  rw [overHttp_iff_means made]
  constructor
  · intro h
    generalize network request = reply at h
    generalize same : Except.ok [] = answer at h
    cases h with
    | failed => nomatch same
    | noEntries blank => exact ⟨_, rfl, .inl blank⟩
    | entries filled told =>
      obtain rfl := Except.ok.inj same
      exact ⟨_, rfl, .inr told⟩
  · rintro ⟨body, reply, held⟩
    rw [reply]
    by_cases blank : BlankBody body
    · exact .noEntries blank
    · exact .entries blank (held.resolve_left blank)

end DaemonCall

/-- A call that is made is answered by what the reply to it means, whatever the reply. It fails by no other
errors than those that the reply gives rise to, and it succeeds just when the reply arrives as a whole, with a
status that grants the call, and holds what the call asks for. -/
theorem answers_never_mistaken {c : DaemonCall} {base : String} {request : HttpRequest}
    (made : c.requestAt base = .ok request) (network : HttpRequest → HttpReply) :
    (∀ answer, c.overHttp network base = answer ↔ c.Means (network request) answer) ∧
    (∀ e, c.overHttp network base = c.failed e ↔ c.Fails (network request) e) ∧
    ((∀ e, c.overHttp network base ≠ c.failed e) ↔
      ∃ status body, network request = .complete status body ∧ status ∈ c.successes ∧
        ¬ c.Misread body) := by
  have fails (e : DaemonError) : c.overHttp network base = c.failed e ↔ c.Fails (network request) e :=
    (DaemonCall.overHttp_iff_means made).trans DaemonCall.means_failed_iff
  refine ⟨fun answer => DaemonCall.overHttp_iff_means made, fails, ?_⟩
  simp only [ne_eq, fails]
  exact DaemonCall.forall_not_fails_iff

/-- Empty bodies: one that breaks off, one of a daemon out of order and one that lists nothing. -/
theorem answers_never_mistaken_empty :
    let base := "http://10.0.0.1:8443"
    let call := DaemonCall.list base
    let url : Url := ⟨"http", some (.ipv4 0x0a000001), some 8443, "/v1/workloads".toList, none⟩
    call.requestAt base = .ok { method := "GET", url } ∧
    call.overHttp (fun _ => .cutOff 200 []) base = .error (.transport base) ∧
    call.overHttp (fun _ => .complete 503 []) base = .error (.rejected 503 "") ∧
    call.overHttp (fun _ => .complete 200 []) base = .ok [] := by
  intro base call url
  have made : call.requestAt base = .ok { method := "GET", url } := by decide +kernel
  have no_text : Text.ofUtf8Lossy [] = "" := by decide
  have blank : BlankBody [] := by simp [BlankBody, no_text]
  have no_trim : Text.trim (Text.ofUtf8Lossy []) = "" := by decide
  obtain ⟨-, cut, -⟩ := answers_never_mistaken made fun _ => .cutOff 200 []
  obtain ⟨-, refused, -⟩ := answers_never_mistaken made fun _ => .complete 503 []
  obtain ⟨means, -, -⟩ := answers_never_mistaken made fun _ => .complete 200 []
  refine ⟨made, (cut _).mpr (.cutOff 200 []), ?_, (means _).mpr (.noEntries blank)⟩
  have fails : call.Fails (.complete 503 []) (.rejected 503 "") := no_trim ▸ .refused (by decide)
  exact (refused _).mpr fails

end CachePartition
