import AttemptLog.Proofs.Text.Base64
import AttemptLog.Proofs.Text.Utf8
import AttemptLog.Web.Server
/-!
Who may read the counts.

A credential is carried by one header only, since texts have one form as bytes and bytes have one written form
(`credential?_eq_some_iff`). `counts_guarded` says that the counts are shown exactly if the first header for
credentials is that one, byte for byte, and that every other request for them is refused.
-/
namespace AttemptLog

/-! ## Headers -/

namespace Text.Base64

theorem isPlain_digit : ∀ bits < 64, ' ' ≤ digit bits ∧ digit bits ≤ '~' := by decide

theorem isPlain_encode (bytes : List UInt8) : ∀ c ∈ encode bytes, ' ' ≤ c ∧ c ≤ '~' := by
  have hpad : ' ' ≤ '=' ∧ '=' ≤ '~' := by decide
  fun_induction encode bytes with
  | case1 => simp
  | case2 a =>
    have ha := a.toNat_lt
    simp only [List.forall_mem_cons, List.not_mem_nil, false_implies, implies_true, and_true]
    exact ⟨isPlain_digit _ (by omega), isPlain_digit _ (by omega), hpad, hpad⟩
  | case3 a b =>
    have ha := a.toNat_lt
    have hb := b.toNat_lt
    simp only [List.forall_mem_cons, List.not_mem_nil, false_implies, implies_true, and_true]
    exact ⟨isPlain_digit _ (by omega), isPlain_digit _ (by omega), isPlain_digit _ (by omega), hpad⟩
  | case4 a b c rest ih =>
    have ha := a.toNat_lt
    have hb := b.toNat_lt
    have hc := c.toNat_lt
    simp only [List.forall_mem_cons]
    exact ⟨isPlain_digit _ (by omega), isPlain_digit _ (by omega), isPlain_digit _ (by omega),
      isPlain_digit _ (by omega), ih⟩

end Text.Base64

namespace Web

def credentialHeader (credential : String) : String :=
  "Basic " ++ String.ofList (Text.Base64.encode (Text.Utf8.encode credential))

theorem toList_credentialHeader (credential : String) :
    (credentialHeader credential).toList = basicScheme ++ Text.Base64.encode (Text.Utf8.encode credential) := by
  simp [credentialHeader, basicScheme]

theorem isPlainText_credentialHeader (credential : String) : isPlainText (credentialHeader credential) = true := by
  have hscheme : basicScheme.all (fun c => c == '\t' || (' ' ≤ c && c ≤ '~')) = true := by decide
  rw [isPlainText, toList_credentialHeader, List.all_append, hscheme, Bool.true_and, List.all_eq_true]
  intro c hmem
  have hvisible := Text.Base64.isPlain_encode _ c hmem
  simp [hvisible]

/-- **A header carries a credential exactly if it is the one for it.** -/
theorem credential?_eq_some_iff {header credential : String} :
    credential? header = some credential ↔ header = credentialHeader credential := by
  have hcarried : credential? header = some credential ↔
      basicScheme <+: header.toList ∧
        header.toList.drop basicScheme.length = Text.Base64.encode (Text.Utf8.encode credential) := by
    simp only [credential?, Option.bind_eq_bind]
    split
    · next hscheme =>
      simp [List.isPrefixOf_iff_prefix.1 hscheme, Option.bind_eq_some_iff, Text.Base64.decode?_eq_some_iff,
        Text.Utf8.decode?_eq_some_iff]
    · next hscheme =>
      have hnone : ¬basicScheme <+: header.toList := fun hpre => hscheme (List.isPrefixOf_iff_prefix.2 hpre)
      simp [hnone]
  rw [hcarried, ← String.toList_inj, toList_credentialHeader]
  constructor
  · rintro ⟨⟨rest, hrest⟩, hdrop⟩
    rw [← hrest, List.drop_left] at hdrop
    rw [← hrest, hdrop]
  · rintro heq
    rw [heq]
    exact ⟨List.prefix_append _ _, List.drop_left⟩

/-- the value of the first header of a name, whatever characters it holds -/
def Request.firstValue? (request : Request) (name : String) : Option String :=
  (request.headers.find? fun header => header.1.toLower == name).map (·.2)

theorem isAuthorized_iff {credential : String} {request : Request} :
    isAuthorized credential request = true ↔
      request.firstValue? "authorization" = some (credentialHeader credential) := by
  have hheader : request.header? "authorization" = (request.firstValue? "authorization").filter isPlainText := rfl
  rw [isAuthorized, beq_iff_eq, hheader, Option.bind_eq_some_iff]
  constructor
  · rintro ⟨header, hfirst, hcarries⟩
    rw [← credential?_eq_some_iff.1 hcarries]
    exact (Option.filter_eq_some_iff.1 hfirst).1
  · intro hfirst
    refine ⟨credentialHeader credential, ?_, credential?_eq_some_iff.2 rfl⟩
    rw [hfirst, Option.filter_some, if_pos (isPlainText_credentialHeader credential)]

/-- **The counts are shown to those who carry the credential, and to nobody else.** Let the credential be any text. A
request to read the counts gets them if and only if the value of its first header for credentials is, byte for byte,
the basic scheme and one space, followed by the padded written form of the bytes of the credential. In every other
case it gets nothing but the status 401: without such a header, with another scheme or another spelling of it, without
padding or with bits that no byte uses, with bytes that are no text, and with any other credential. -/
theorem counts_guarded (site : Site) (meter : Meter) (issue : Issue) {request : Request}
    (hmethod : request.method = "GET") (hpath : request.path = "/metrics") :
    ∃ reply : Reply, respond site meter issue request = pure (reply, [.request "GET" "/metrics" reply.status]) ∧
      (reply = .plain 200 (.counts meter.lines meter.shape) ↔
        request.firstValue? "authorization" = some (credentialHeader site.credential)) ∧
      (reply = .bare 401 ↔ request.firstValue? "authorization" ≠ some (credentialHeader site.credential)) := by
  have hroute : Route.ofPath? "/metrics" = some .metrics := by decide +kernel
  have hlabel : pathLabel "/metrics" = "/metrics" := by
    rw [pathLabel, hroute]
    rfl
  have hget : "GET" ∈ Route.metrics.methods := by decide
  have hbody : ¬("GET" = "HEAD") := by decide
  have hcarries : isAuthorized site.credential request = true ↔ _ := isAuthorized_iff
  rw [ne_eq, ← hcarries]
  cases hauthorized : isAuthorized site.credential request with
  | true =>
    refine ⟨.plain 200 (.counts meter.lines meter.shape), ?_, by simp, by simp [Reply.plain, Reply.bare]⟩
    simp only [respond, hpath, hroute, respondAt, hmethod, hget, hauthorized, hbody, hlabel, serve, ite_true, ite_false,
      Bool.not_true, Bool.false_eq_true, and_false]
    rfl
  | false =>
    refine ⟨.bare 401, ?_, by simp [Reply.plain, Reply.bare], by simp⟩
    simp only [respond, hpath, hroute, respondAt, hmethod, hget, hauthorized, hlabel, ite_true, Bool.not_false,
      and_self]
    rfl

/-- a request for the counts with two headers for credentials, of which the second one would do -/
def askingWith (value : String) : Request :=
  ⟨"GET", "/metrics?all", [("Authorization", value), ("authorization", "Basic w6k6Yg==")], []⟩

/-- the first header counts, and its last bits have to be zero although no byte uses them -/
theorem counts_guarded_bits :
    (askingWith "Basic w6k6Yg==").path = "/metrics" ∧ (askingWith "Basic w6k6Yh==").path = "/metrics" ∧
      respond ⟨"memory", "é:b"⟩ [] ⟨"", "", .year2024⟩ (askingWith "Basic w6k6Yg==") =
        pure (.plain 200 (.counts (Meter.lines []) (Meter.shape [])), [.request "GET" "/metrics" 200]) ∧
      respond ⟨"memory", "é:b"⟩ [] ⟨"", "", .year2024⟩ (askingWith "Basic w6k6Yh==") =
        pure (.bare 401, [.request "GET" "/metrics" 401]) := by
  have hpath : (askingWith "Basic w6k6Yg==").path = "/metrics" := by decide +kernel
  have hpath' : (askingWith "Basic w6k6Yh==").path = "/metrics" := by decide +kernel
  obtain ⟨shown, hshown, hiff, -⟩ := counts_guarded ⟨"memory", "é:b"⟩ [] ⟨"", "", .year2024⟩ rfl hpath
  obtain ⟨refused, hrefused, -, hiff'⟩ := counts_guarded ⟨"memory", "é:b"⟩ [] ⟨"", "", .year2024⟩ rfl hpath'
  have hpage := hiff.2 (by decide +kernel)
  have hbare := hiff'.2 (by decide +kernel)
  subst hpage hbare
  exact ⟨hpath, hpath', hshown, hrefused⟩

end Web

end AttemptLog
