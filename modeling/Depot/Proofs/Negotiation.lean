import Depot.Proofs.Attempts
import Depot.Proofs.HeaderText

/-!
What a negotiation amounts to. A text with references is a sequence of pieces, and it can be resolved
if all names among them have a value. Credentials that can be resolved are sent first, and no others
ever are; the second request, if there is one, is sent as if there had been no credentials.
-/

namespace Depot

open Http Text

namespace Credentials

/-- What a text consists of. -/
inductive Piece
  | char (c : Char)
  | reference (name : List Char)
deriving DecidableEq, Repr

namespace Piece

def value? (lookup : String → Option String) : Piece → Option (List Char)
  | char c => some [c]
  | reference name => (reference? lookup name).map String.toList

end Piece

/-- The pieces of a text, whatever values there are. -/
def pieces : List Char → List Piece
  | [] => []
  | '$' :: '\x7b' :: rest =>
      match _h : splitFirst '\x7d' rest with
      | none => ('$' :: '\x7b' :: rest).map .char
      | some (name, after) => .reference name :: pieces after
  | c :: rest => .char c :: pieces rest
termination_by s => s.length
decreasing_by
  · have := length_splitFirst_lt _h
    simp only [List.length_cons]
    omega
  · simp

/-- The text of pieces that all have a value. -/
def filled? (lookup : String → Option String) (ps : List Piece) : Option (List Char) :=
  (ps.mapM (Piece.value? lookup)).map List.flatten

section Filled

variable {lookup : String → Option String}

theorem filled?_cons (p : Piece) (ps : List Piece) :
    filled? lookup (p :: ps) =
      (p.value? lookup).bind fun value => (filled? lookup ps).map (value ++ ·) := by
  rw [filled?, filled?, List.mapM_cons]
  cases p.value? lookup with
  | none => rfl
  | some value => cases ps.mapM (Piece.value? lookup) <;> rfl

theorem filled?_chars (text : List Char) : filled? lookup (text.map .char) = some text := by
  induction text with
  | nil => rfl
  | cons c rest ih => rw [List.map_cons, filled?_cons, ih]; rfl

theorem filled?_eq_none_iff (ps : List Piece) :
    filled? lookup ps = none ↔ ∃ p ∈ ps, p.value? lookup = none := by
  induction ps with
  | nil => simp [filled?]
  | cons p ps ih =>
      rw [filled?_cons, List.exists_mem_cons_iff, ← ih, Option.bind_eq_none_iff]
      cases p.value? lookup with
      | none => simp
      | some value => simp

theorem substitute?_unclosed {rest : List Char} (h : splitFirst '\x7d' rest = none) :
    substitute? lookup ('$' :: '\x7b' :: rest) = some ('$' :: '\x7b' :: rest) := by
  rw [substitute?]
  split
  · rfl
  · rename_i hclosed
    rw [h] at hclosed
    cases hclosed

theorem substitute?_closed {rest name after : List Char}
    (h : splitFirst '\x7d' rest = some (name, after)) :
    substitute? lookup ('$' :: '\x7b' :: rest) = (reference? lookup name).bind fun value =>
      (substitute? lookup after).map (value.toList ++ ·) := by
  rw [substitute?]
  split
  · rename_i hunclosed
    rw [h] at hunclosed
    cases hunclosed
  · rename_i hclosed
    rw [h] at hclosed
    cases hclosed
    cases reference? lookup name with
    | none => rfl
    | some value => cases substitute? lookup after <;> rfl

theorem substitute?_eq_filled? (text : List Char) :
    substitute? lookup text = filled? lookup (pieces text) := by
  fun_induction pieces text with
  | case1 => rw [substitute?]; rfl
  | case2 rest h => rw [filled?_chars, substitute?_unclosed h]
  | case3 rest name after h ih =>
      rw [filled?_cons, substitute?_closed h, ← ih, Piece.value?, Option.bind_map]
      rfl
  | case4 c rest h ih =>
      rw [substitute?, filled?_cons, ← ih]
      · rfl
      · exact h

end Filled

/-- There is a reference without a value. -/
def IsUnresolved (lookup : String → Option String) (c : Credentials) : Prop :=
  ∃ name, .reference name ∈ pieces c.username.toList ++ pieces c.password.toList ∧
    reference? lookup name = none

/-- The parts of `r` are those of `c` with values in place of references. -/
def ResolvesTo (lookup : String → Option String) (c r : Credentials) : Prop :=
  filled? lookup (pieces c.username.toList) = some r.username.toList ∧
    filled? lookup (pieces c.password.toList) = some r.password.toList

theorem Piece.value?_eq_none_iff {lookup : String → Option String} {p : Piece} :
    p.value? lookup = none ↔ ∃ name, p = .reference name ∧ reference? lookup name = none := by
  cases p with
  | char c => simp [value?]
  | reference name => simp [value?]

variable {lookup : String → Option String} {c : Credentials}

theorem resolve?_eq_some_iff {r : Credentials} :
    c.resolve? lookup = some r ↔ c.ResolvesTo lookup r := by
  rw [ResolvesTo, ← substitute?_eq_filled?, ← substitute?_eq_filled?, resolve?]
  constructor
  · intro h
    obtain ⟨username, husername, h⟩ := Option.bind_eq_some_iff.1 h
    obtain ⟨password, hpassword, h⟩ := Option.bind_eq_some_iff.1 h
    cases h
    rw [String.toList_ofList, String.toList_ofList]
    exact ⟨husername, hpassword⟩
  · rintro ⟨husername, hpassword⟩
    rw [husername, hpassword]
    simp

theorem resolve?_eq_none_iff : c.resolve? lookup = none ↔ c.IsUnresolved lookup := by
  have hfilled : c.resolve? lookup = none ↔ filled? lookup (pieces c.username.toList) = none ∨
      filled? lookup (pieces c.password.toList) = none := by
    rw [← substitute?_eq_filled?, ← substitute?_eq_filled?, resolve?]
    cases substitute? lookup c.username.toList <;>
      cases substitute? lookup c.password.toList <;> simp
  rw [hfilled, filled?_eq_none_iff, filled?_eq_none_iff, ← exists_or]
  simp only [← or_and_right, ← List.mem_append]
  constructor
  · rintro ⟨p, hp, hvalue⟩
    obtain ⟨name, rfl, hname⟩ := Piece.value?_eq_none_iff.1 hvalue
    exact ⟨name, hp, hname⟩
  · rintro ⟨name, hp, hname⟩
    exact ⟨.reference name, hp, Piece.value?_eq_none_iff.2 ⟨name, rfl, hname⟩⟩

end Credentials

section Authorizations

/-- The headers that prove an identity. -/
def Http.Headers.authorizations (hs : Headers) : Headers := hs.filter (·.name == "authorization")

theorem Http.Headers.authorizations_set (hs : Headers) {h : Header}
    (hname : h.name = "authorization") : (hs.set h).authorizations = [h] := by
  have hothers : (hs.filter fun k => k.name != h.name).filter (·.name == "authorization") = [] := by
    rw [List.filter_filter, List.filter_eq_nil_iff]
    intro k _
    simp [hname, bne]
  have hitself : [h].filter (·.name == "authorization") = [h] := by simp [hname]
  rw [authorizations, set, List.filter_append, hothers, hitself, List.nil_append]

theorem Http.Request.authorizations_of_prepare {request : Request} {settings : Settings}
    {sent : Sent} (h : request.prepare settings = .ok sent) :
    sent.headers.authorizations = request.headers.authorizations := by
  unfold prepare at h
  split at h
  · cases h
  · dsimp only at h
    split at h
    · cases h
      have hagent : ¬("user-agent" == "authorization") = true := by decide
      exact List.filter_cons_of_neg hagent
    · cases h

/-- Headers are not what makes a request invalid. -/
theorem Http.Request.prepare_withHeader_of_invalid {request : Request} {settings : Settings}
    {reason : Invalid} (hinvalid : request.prepare settings = .error reason) (h : Header) :
    (request.withHeader h).prepare settings = .error reason := by
  rw [prepare] at hinvalid ⊢
  rw [withHeader]
  cases hparse : Target.parse request.uri with
  | error e =>
      rw [hparse] at hinvalid
      exact hinvalid
  | ok target =>
      rw [hparse] at hinvalid
      dsimp only at hinvalid ⊢
      split at hinvalid
      · cases hinvalid
      · rename_i hagent
        rw [if_neg hagent]
        exact hinvalid

end Authorizations

/-- Parts of a conversation are held one after the other. -/
theorem Session.hold_bind {α β : Type} (c : Conversation α) (f : α → Conversation β) (s : Session) :
    hold (c.bind f) s = hold (f (hold c s).1) (hold c s).2 := by
  induction c generalizing s with
  | done a => rfl
  | attempt sent limits next ih => exact ih _ _
  | pause ms next ih => exact ih _

namespace Http.Conversation

variable {settings : Settings} {request : Request}

theorem length_sentIn_negotiate_le {lookup : String → Option String}
    {credentials : Option Credentials} (outcomes : Nat → Except Cause Response) :
    ((negotiate settings lookup request credentials).sentIn outcomes).length ≤
      2 * settings.retry.limit := by
  rw [Nat.two_mul]
  cases hc : credentials.bind (Credentials.resolve? lookup) with
  | none =>
      rw [negotiate, hc]
      exact (length_sentIn_send_le outcomes).trans (Nat.le_add_left _ _)
  | some c =>
      rw [negotiate_of_resolved hc, sentIn_bind, List.length_append]
      refine Nat.add_le_add (length_sentIn_send_le outcomes) ?_
      unfold askAgain
      split
      · split
        · exact length_sentIn_send_le _
        · exact Nat.zero_le _
      · exact Nat.zero_le _

section Parts

variable {lookup : String → Option String}

theorem sends_anonymous (hown : ∀ h ∈ request.headers, h.name ≠ "authorization") :
    (send settings request).Sends (fun sent => sent.headers.authorizations = []) fun _ => True := by
  have hnone : request.headers.authorizations = [] :=
    List.filter_eq_nil_iff.2 fun h hh => mt eq_of_beq (hown h hh)
  exact send_sends fun sent hsent => (Request.authorizations_of_prepare hsent).trans hnone

theorem sends_identified {h : Header} (hname : h.name = "authorization") :
    (send settings (request.withHeader h)).Sends (fun sent => sent.headers.authorizations = [h])
      fun _ => True :=
  send_sends fun _ hsent =>
    (Request.authorizations_of_prepare hsent).trans (Headers.authorizations_set _ hname)

theorem negotiate_of_unresolved {credentials : Option Credentials}
    (h : ∀ c ∈ credentials, c.IsUnresolved lookup) :
    negotiate settings lookup request credentials = send settings request := by
  have hnone : credentials.bind (Credentials.resolve? lookup) = none :=
    Option.bind_eq_none_iff.2 fun c hc => Credentials.resolve?_eq_none_iff.2 (h c hc)
  rw [negotiate, hnone]

/-- Only if the response denies what was asked for, it is asked for again. -/
theorem hold_negotiate {c r : Credentials} (h : c.ResolvesTo lookup r) (s : Session) :
    Session.hold (negotiate settings lookup request (some c)) s =
      match Session.hold (send settings (request.withHeader r.authorization)) s with
      | (.ok response, after) =>
          if response.status = 401 ∨ response.status = 403 then
            Session.hold (send settings request) after
          else (.ok response, after)
      | (.error failure, after) => (.error failure, after) := by
  have hsome : (some c).bind (Credentials.resolve? lookup) = some r :=
    Credentials.resolve?_eq_some_iff.2 h
  rw [negotiate_of_resolved hsome, Session.hold_bind]
  obtain ⟨outcome, after⟩ := Session.hold (send settings (request.withHeader r.authorization)) s
  cases outcome with
  | error failure => rfl
  | ok response =>
      have hdenied : Status.isDenied response.status = true ↔
          response.status = 401 ∨ response.status = 403 := by simp [Status.isDenied]
      dsimp only [askAgain]
      by_cases hstatus : response.status = 401 ∨ response.status = 403
      · rw [if_pos hstatus, if_pos (hdenied.2 hstatus)]
      · rw [if_neg hstatus, if_neg (mt hdenied.1 hstatus)]
        rfl

/-- A request that is not valid fails at once, and nothing is sent. -/
theorem negotiate_of_invalid {reason : Invalid} (h : request.prepare settings = .error reason)
    (credentials : Option Credentials) :
    negotiate settings lookup request credentials =
      done (.error (.single request.uri (.invalid reason))) := by
  cases hc : credentials.bind (Credentials.resolve? lookup) with
  | none => rw [negotiate, hc, send, h]
  | some c =>
      rw [negotiate_of_resolved hc, send, Request.prepare_withHeader_of_invalid h]
      rfl

end Parts

/-- Without credentials that can be resolved a negotiation is like sending the request, which proves
no identity. Else the request is first sent with the name and password, which a header can always
hold, and if and only if the response to that denies what was asked for, the request is sent as
without credentials and ends like that. A request that is not valid fails at once, and never are
there more than twice as many attempts as are allowed for one request. -/
theorem negotiate_asks_again (settings : Settings) (lookup : String → Option String)
    (hown : ∀ h ∈ request.headers, h.name ≠ "authorization") (credentials : Option Credentials)
    (s : Session) :
    let anonymous := send settings request
    let held := Session.hold (negotiate settings lookup request credentials) s
    (anonymous.Sends (fun sent => sent.headers.authorizations = []) fun _ => True) ∧
    ((∀ c ∈ credentials, c.IsUnresolved lookup) → held = Session.hold anonymous s) ∧
    (∀ c ∈ credentials, ¬c.IsUnresolved lookup → ∃ r, c.ResolvesTo lookup r ∧
      let value := Utf8.encode
        ("Basic " ++ Digest.Base64.write (Utf8.encode (r.username ++ ":" ++ r.password)))
      let identified := send settings (request.withHeader ⟨"authorization", value⟩)
      Header.ofParts? "authorization" value = some ⟨"authorization", value⟩ ∧
      (identified.Sends (fun sent => sent.headers.authorizations = [⟨"authorization", value⟩])
        fun _ => True) ∧
      held = match Session.hold identified s with
        | (.ok response, after) =>
            if response.status = 401 ∨ response.status = 403 then Session.hold anonymous after
            else (.ok response, after)
        | (.error failure, after) => (.error failure, after)) ∧
    (∀ reason, request.prepare settings = .error reason →
      held = (.error (.single request.uri (.invalid reason)), s)) ∧
    ∃ more, held.2.contacts = s.contacts ++ more ∧
      more.length ≤ 2 * max 1 settings.retry.maxAttempts := by
  intro anonymous held
  refine ⟨sends_anonymous hown, fun h => ?_, fun c hc h => ?_, fun reason h => ?_, ?_⟩
  · exact congrArg (Session.hold · s) (negotiate_of_unresolved h)
  · obtain ⟨r, hr⟩ := Option.ne_none_iff_exists'.1 (mt Credentials.resolve?_eq_none_iff.1 h)
    have hresolved := Credentials.resolve?_eq_some_iff.1 hr
    cases hc
    exact ⟨r, hresolved, Credentials.ofParts?_basic _, sends_identified rfl,
      hold_negotiate hresolved s⟩
  · exact congrArg (Session.hold · s) (negotiate_of_invalid h credentials)
  · obtain ⟨outcomes, -, more, hmore, hshown⟩ :=
      exists_course (negotiate settings lookup request credentials) s
    exact ⟨more, hmore, hshown.length_eq ▸ length_sentIn_negotiate_le outcomes⟩

/-- A server that denies access to everybody who proves an identity, and to nobody else. -/
theorem negotiate_asks_again_denied :
    let network : Network :=
      { connect := fun _ _ => .works
        answer := fun _ sent =>
          if sent.headers.authorizations = [] then {} else { status := 403 } }
    let lookup (name : String) := if name = "TOKEN" then some "p" else none
    let accept : Header := ⟨"accept", Utf8.encode "*/*"⟩
    let request := (Request.get "http://a.b/").withHeader accept
    let held := Session.hold
      (negotiate {} lookup request (some ⟨"u", "$\x7benv.TOKEN\x7d"⟩)) { network }
    accept ∈ request.headers ∧ (∀ h ∈ request.headers, h.name ≠ "authorization") ∧
      held.1 = .ok ⟨200, [], []⟩ ∧
      held.2.contacts.map (fun
        | .request sent => sent.headers.authorizations
        | .noConnection _ _ => []) =
          [[⟨"authorization", Utf8.encode "Basic dTpw"⟩], []] := by
  intro network lookup accept request held
  let c : Credentials := ⟨"u", "$\x7benv.TOKEN\x7d"⟩
  have hown : ∀ h ∈ request.headers, h.name ≠ "authorization" := by decide +kernel
  have hresolve : c.resolve? lookup = some ⟨"u", "p"⟩ := by decide +kernel
  have hresolved : ¬c.IsUnresolved lookup := by
    rw [← Credentials.resolve?_eq_none_iff, hresolve]
    exact Option.some_ne_none _
  obtain ⟨-, -, hasked, -, -⟩ := negotiate_asks_again {} lookup hown (some c) { network }
  obtain ⟨r, hr, -, -, hheld⟩ := hasked c rfl hresolved
  have hparts := Credentials.resolve?_eq_some_iff.2 hr
  rw [hresolve] at hparts
  cases hparts
  have hend : held = _ := hheld
  rw [hend]
  exact ⟨List.mem_singleton_self accept, hown, by decide +kernel, by decide +kernel⟩

end Http.Conversation

end Depot
