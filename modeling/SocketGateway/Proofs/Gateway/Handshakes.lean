import Mathlib.Data.List.Forall2
import SocketGateway.Proofs.Gateway.Outcomes
import SocketGateway.Proofs.Handover.Reached
import SocketGateway.Transport.Recorder

/-!
Contract: which handshakes are let in, as their makers give them.

Owns:
- handshakes as rows of headers and query fields, in the order in which they are given;
- which token such a handshake carries, with names of headers compared letter by letter;
- that a handshake is let in exactly if its token is accepted, and what that makes of the gateway
  and of the world.

Does not own: when the bind of a handshake is taken up.
-/

namespace SocketGateway

/-! ### Names -/

def IsCapital (letter : Char) : Prop := 'A' ≤ letter ∧ letter ≤ 'Z'

instance (letter : Char) : Decidable (IsCapital letter) := inferInstanceAs (Decidable (_ ∧ _))

/-- The second letter is the small one of the first. -/
def IsSmallOf (capital small : Char) : Prop :=
  IsCapital capital ∧ small.toNat = capital.toNat + 32

instance (capital small : Char) : Decidable (IsSmallOf capital small) :=
  inferInstanceAs (Decidable (_ ∧ _))

/-- The letters are equal, but for the case of an ASCII letter. -/
def SameLetter (left right : Char) : Prop :=
  left = right ∨ IsSmallOf left right ∨ IsSmallOf right left

instance : DecidableRel SameLetter := fun _ _ => inferInstanceAs (Decidable (_ ∨ _ ∨ _))

/-- The names are equal letter by letter, whatever the case of ASCII letters. -/
def SameName (left right : String) : Prop := List.Forall₂ SameLetter left.toList right.toList

instance : DecidableRel SameName := fun _ _ => inferInstanceAs (Decidable (List.Forall₂ _ _ _))

private theorem isCapital_iff {letter : Char} :
    IsCapital letter ↔ 65 ≤ letter.toNat ∧ letter.toNat ≤ 90 :=
  Iff.rfl

private theorem toNat_toLower (letter : Char) :
    letter.toLower.toNat = if IsCapital letter then letter.toNat + 32 else letter.toNat := by
  unfold Char.toLower
  split
  · next capital =>
    rw [if_pos (show IsCapital letter from capital)]
    have small : letter.toNat ≤ 90 := (isCapital_iff.mp capital).2
    show (letter.val + 32).toNat = letter.toNat + 32
    rw [UInt32.toNat_add]
    show (letter.toNat + 32) % 2 ^ 32 = letter.toNat + 32
    omega
  · next other =>
    rw [if_neg (show ¬ IsCapital letter from other)]

private theorem toLower_eq_iff {left right : Char} :
    left.toLower = right.toLower ↔ SameLetter left right := by
  have sameNumber : left = right ↔ left.toNat = right.toNat :=
    ⟨congrArg Char.toNat, Char.toNat_inj.mp⟩
  rw [SameLetter, IsSmallOf, IsSmallOf, sameNumber, ← Char.toNat_inj, toNat_toLower, toNat_toLower]
  simp only [isCapital_iff]
  split <;> split <;> omega

private theorem foldCase_eq_iff {left right : String} :
    foldCase left = foldCase right ↔ SameName left right := by
  rw [foldCase, foldCase, String.ofList_inj, ← List.forall₂_eq_eq_eq, List.forall₂_map_left_iff,
    List.forall₂_map_right_iff]
  simp only [toLower_eq_iff]
  rfl

/-! ### Handshakes as they are given -/

/-- One thing that the maker of a handshake gives. -/
inductive HandshakePart where
  | header (name value : String)
  | field (name value : String)

namespace HandshakePart

/-- The value of a header with that name, in any case. -/
def headerValue? (name : String) : HandshakePart → Option String
  | .header given value => if SameName given name then some value else none
  | .field _ _ => none

/-- The value of a query field with exactly that name. -/
def fieldValue? (name : String) : HandshakePart → Option String
  | .header _ _ => none
  | .field given value => if given = name then some value else none

end HandshakePart

/-- Adds a header or a query field. -/
def Handshake.withPart (request : Handshake) : HandshakePart → Handshake
  | .header name value => request.withHeader name value
  | .field name value => request.withQuery name value

def Handshake.ofParts (parts : List HandshakePart) : Handshake :=
  parts.foldl Handshake.withPart {}

variable {parts : List HandshakePart}

/-- The last value given to a header. -/
def lastHeader? (parts : List HandshakePart) (name : String) : Option String :=
  (parts.filterMap (HandshakePart.headerValue? name)).getLast?

/-- The last value given to a query field. -/
def lastField? (parts : List HandshakePart) (name : String) : Option String :=
  (parts.filterMap (HandshakePart.fieldValue? name)).getLast?

theorem header?_ofParts (parts : List HandshakePart) (name : String) :
    (Handshake.ofParts parts).header? name = lastHeader? parts name := by
  induction parts using List.reverseRecOn with
  | nil => simp [Handshake.ofParts, Handshake.header?, lastHeader?]
  | append_singleton parts part inductionHypothesis =>
    rw [Handshake.ofParts] at inductionHypothesis ⊢
    rw [List.foldl_append, lastHeader?, List.filterMap_append]
    cases part with
    | header given value =>
      simp only [List.foldl, Handshake.withPart, Handshake.header?_withHeader, foldCase_eq_iff,
        inductionHypothesis]
      by_cases same : SameName given name <;>
        simp [HandshakePart.headerValue?, same, lastHeader?]
    | field given value =>
      simp [Handshake.withPart, Handshake.header?_withQuery, HandshakePart.headerValue?,
        inductionHypothesis, lastHeader?]

theorem query?_ofParts (parts : List HandshakePart) (name : String) :
    (Handshake.ofParts parts).query? name = lastField? parts name := by
  induction parts using List.reverseRecOn with
  | nil => simp [Handshake.ofParts, Handshake.query?, lastField?]
  | append_singleton parts part inductionHypothesis =>
    rw [Handshake.ofParts] at inductionHypothesis ⊢
    rw [List.foldl_append, lastField?, List.filterMap_append]
    cases part with
    | header given value =>
      simp [Handshake.withPart, Handshake.query?_withHeader, HandshakePart.fieldValue?,
        inductionHypothesis, lastField?]
    | field given value =>
      simp only [List.foldl, Handshake.withPart, Handshake.query?_withQuery, inductionHypothesis]
      by_cases same : given = name <;> simp [HandshakePart.fieldValue?, same, lastField?]

/-! ### Credentials -/

/-- The author that the headers name: under the right name, or else under the misspelt one. -/
def lastAuthor? (parts : List HandshakePart) : Option String :=
  (lastHeader? parts "Author").or (lastHeader? parts "Authoration")

/-- The headers carry the token, next to an author that starts as it has to. -/
def InHeaders (authPrefix : String) (parts : List HandshakePart) (token : String) : Prop :=
  lastHeader? parts "Token" = some token ∧ token ≠ "" ∧
    ∃ author, lastAuthor? parts = some author ∧ authPrefix.toList <+: author.toList

/-- A handshake carries a token in its headers, or else in its query. -/
def Carries (authPrefix : String) (parts : List HandshakePart) (token : String) : Prop :=
  InHeaders authPrefix parts token ∨
    (∀ other, ¬ InHeaders authPrefix parts other) ∧ lastField? parts "token" = some token ∧
      token ≠ ""

private theorem author?_ofParts : Authentication.author? (.ofParts parts) = lastAuthor? parts := by
  simp only [Authentication.author?, Authentication.authorHeaders, List.findSome?, header?_ofParts,
    lastAuthor?]
  cases lastHeader? parts "Author" <;> cases lastHeader? parts "Authoration" <;> rfl

private theorem headerToken?_ofParts {authPrefix token : String} :
    Authentication.headerToken? authPrefix (.ofParts parts) = some token ↔
      InHeaders authPrefix parts token := by
  simp only [Authentication.headerToken?, Authentication.tokenHeader, author?_ofParts,
    header?_ofParts, InHeaders, Option.bind_eq_bind, Option.bind_eq_some_iff,
    List.isPrefixOf_iff_prefix]
  constructor
  · rintro ⟨author, isAuthor, given, isGiven, accepted⟩
    split at accepted
    · next permitted =>
      cases accepted
      exact ⟨isGiven, permitted.2, author, isAuthor, permitted.1⟩
    · cases accepted
  · rintro ⟨isGiven, notEmpty, author, isAuthor, starts⟩
    exact ⟨author, isAuthor, token, isGiven, if_pos ⟨starts, notEmpty⟩⟩

private theorem queryToken?_ofParts {token : String} :
    Authentication.queryToken? (.ofParts parts) = some token ↔
      lastField? parts "token" = some token ∧ token ≠ "" := by
  simp only [Authentication.queryToken?, Authentication.tokenField, query?_ofParts,
    Option.bind_eq_bind, Option.bind_eq_some_iff]
  constructor
  · rintro ⟨given, isGiven, accepted⟩
    split at accepted
    · next notEmpty =>
      cases accepted
      exact ⟨isGiven, notEmpty⟩
    · cases accepted
  · rintro ⟨isGiven, notEmpty⟩
    exact ⟨token, isGiven, if_pos notEmpty⟩

/-- The token that is found is the one that the handshake carries. -/
theorem extractToken_ofParts {authPrefix token : String} :
    Authentication.extractToken authPrefix (.ofParts parts) = .ok token ↔
      Carries authPrefix parts token := by
  have found : Authentication.extractToken authPrefix (.ofParts parts) = .ok token ↔
      (Authentication.headerToken? authPrefix (.ofParts parts)).or
        (Authentication.queryToken? (.ofParts parts)) = some token := by
    rw [Authentication.extractToken, Option.orElse_eq_orElse, Option.orElse_eq_or]
    split
    · next isFound => rw [isFound, Except.ok.injEq, Option.some.injEq]
    · next missing => simp [missing, Authentication.denied]
  rw [found, Option.or_eq_some_iff, headerToken?_ofParts, queryToken?_ofParts, Carries,
    Option.eq_none_iff_forall_ne_some]
  simp only [ne_eq, headerToken?_ofParts]

theorem Carries.unique {authPrefix token other : String} (carries : Carries authPrefix parts token)
    (carriesOther : Carries authPrefix parts other) : token = other := by
  rw [← extractToken_ofParts] at carries carriesOther
  exact Except.ok.inj (carries.symm.trans carriesOther)

private theorem extractToken_error {authPrefix : String} {request : Handshake}
    {cause : GatewayError}
    (failed : Authentication.extractToken authPrefix request = .error cause) :
    ∃ reason, cause = .authDenied reason := by
  unfold Authentication.extractToken at failed
  split at failed
  · cases failed
  · cases failed
    exact ⟨_, rfl⟩

/-! ### Decisions -/

namespace Gateway

variable {World : Type} {gateway : Gateway World}

/-- A token is accepted as a bind: by the hook, or as a client's id if there is no hook. -/
def Accepts (gateway : Gateway World) (token : String) (world : World) (bind : PendingBind) :
    Prop :=
  Text.isBlank bind.client.text = false ∧
    match gateway.hooks.authenticate with
    | none => bind.client.text = token ∧ bind.option = ""
    | some hook => (hook token world).1 = .ok (bind.client.text, bind.option) ∧
        (bind.option ≠ "" ∨ gateway.config.optionRequired = false)

/-- What the authentication hook makes of the world when it is asked for a token. -/
def askedFor (gateway : Gateway World) (token : String) (world : World) : World :=
  match gateway.hooks.authenticate with
  | none => world
  | some hook => (hook token world).2

private theorem decide_world (token : String) (world : World) :
    (gateway.decide token world).2 = gateway.askedFor token world := by
  unfold decide askedFor
  cases gateway.hooks.authenticate <;> rfl

private theorem clientId_of_not_blank {id : ClientId} (notBlank : Text.isBlank id.text = false) :
    Authentication.clientId id.text = .ok id := by
  have made : ClientId.ofText id.text = .ok id := ClientId.ofText_eq_ok_iff.mpr ⟨notBlank, rfl⟩
  rw [Authentication.clientId, made]

theorem decide_eq_ok_iff {token : String} {world : World} {bind : PendingBind} :
    (gateway.decide token world).1 = .ok bind ↔ gateway.Accepts token world bind := by
  unfold decide Accepts
  cases gateway.hooks.authenticate with
  | none =>
    constructor
    · intro accepted
      exact Authentication.bindOfToken_eq_ok accepted
    · rintro ⟨notBlank, rfl, noOption⟩
      simp only [Authentication.bindOfToken, clientId_of_not_blank notBlank, ← noOption]
  | some hook =>
    constructor
    · intro accepted
      obtain ⟨notBlank, answer, required⟩ := Authentication.bindOfAnswer_eq_ok accepted
      refine ⟨notBlank, answer, ?_⟩
      cases isRequired : gateway.config.optionRequired with
      | false => exact Or.inr rfl
      | true => exact Or.inl (required isRequired)
    · rintro ⟨notBlank, answer, permitted⟩
      have notMissing :
          ¬ (gateway.config.optionRequired && Decidable.decide (bind.option = "")) = true := by
        rcases permitted with isGiven | notRequired
        · simp [isGiven]
        · simp [notRequired]
      simp only [answer, Authentication.bindOfAnswer, clientId_of_not_blank notBlank]
      exact if_neg notMissing

private theorem clientId_error {text : String} {cause : GatewayError}
    (failed : Authentication.clientId text = .error cause) :
    ∃ reason, cause = .authDenied reason := by
  unfold Authentication.clientId at failed
  split at failed
  · cases failed
  · cases failed
    exact ⟨_, rfl⟩

private theorem decide_error {token : String} {world : World} {cause : GatewayError}
    (failed : (gateway.decide token world).1 = .error cause) :
    ∃ reason, cause = .authDenied reason := by
  unfold decide at failed
  cases installed : gateway.hooks.authenticate with
  | none =>
    simp only [installed, Authentication.bindOfToken] at failed
    split at failed
    · next denied =>
      cases failed
      exact clientId_error denied
    · cases failed
  | some hook =>
    simp only [installed] at failed
    unfold Authentication.bindOfAnswer at failed
    split at failed
    · cases failed
      exact ⟨_, rfl⟩
    · split at failed
      · next denied =>
        cases failed
        exact clientId_error denied
      · split at failed
        · cases failed
          exact ⟨_, rfl⟩
        · cases failed

/-! ### Result -/

/-- What comes of authenticating a handshake that is given part by part, with a token that is not in
use, by tables that were used at these times. -/
structure Vets (gateway : Gateway World) (parts : List HandshakePart) (fresh : CorrelationToken)
    (times : List Nat) (now : Nat) (world : World)
    (outcome : Except GatewayError CorrelationToken × Gateway World × World) : Prop where
  token : ∀ token,
    Authentication.extractToken gateway.config.authPrefix (.ofParts parts) = .ok token ↔
      Carries gateway.config.authPrefix parts token
  admits : (∃ answer, outcome.1 = .ok answer) ↔
    ∃ token bind, Carries gateway.config.authPrefix parts token ∧ gateway.Accepts token world bind
  admitted : ∀ answer, outcome.1 = .ok answer → answer = fresh ∧
    outcome.2.1 = { gateway with pending := outcome.2.1.pending } ∧
    ∃ token bind, Carries gateway.config.authPrefix parts token ∧ gateway.Accepts token world bind ∧
      gateway.pending.Gains outcome.2.1.pending fresh bind times now
  /-- A denial leaves the gateway as it is. -/
  denied : ∀ cause, outcome.1 = .error cause →
    (∃ reason, cause = .authDenied reason) ∧ outcome.2.1 = gateway
  /-- The hook is asked once, for the token that the handshake carries. -/
  asked : ∀ token, Carries gateway.config.authPrefix parts token →
    outcome.2.2 = gateway.askedFor token world
  unasked : (∀ token, ¬ Carries gateway.config.authPrefix parts token) → outcome.2.2 = world

section Vets

variable {times : List Nat} {fresh : CorrelationToken}

private theorem vets_without_token
    (extracted : ∀ token, ¬ Carries gateway.config.authPrefix parts token)
    (fresh : CorrelationToken) (times : List Nat) (now : Nat) (world : World) :
    gateway.Vets parts fresh times now world
      (gateway.authenticate (.ofParts parts) fresh now world) := by
  cases found : Authentication.extractToken gateway.config.authPrefix (.ofParts parts) with
  | ok token => exact absurd (extractToken_ofParts.mp found) (extracted token)
  | error cause =>
    have outcome : gateway.authenticate (.ofParts parts) fresh now world =
        (.error cause, gateway, world) := by
      simp only [authenticate, found]
    rw [outcome]
    refine ⟨fun _ => extractToken_ofParts, ⟨nofun, ?_⟩, nofun, ?_, ?_, fun _ => rfl⟩
    · rintro ⟨token, bind, carries, -⟩
      exact absurd carries (extracted token)
    · rintro _ ⟨⟩
      exact ⟨extractToken_error found, rfl⟩
    · intro token carries
      exact absurd carries (extracted token)

private theorem vets_with_token (reached : PendingBinds.Reached times gateway.pending)
    {token : String} (carries : Carries gateway.config.authPrefix parts token)
    (unused : gateway.pending.binds.entries[fresh]? = none) (now : Nat) (world : World) :
    gateway.Vets parts fresh times now world
      (gateway.authenticate (.ofParts parts) fresh now world) := by
  have extracted := extractToken_ofParts.mpr carries
  have asked : ∀ other, Carries gateway.config.authPrefix parts other →
      (gateway.decide token world).2 = gateway.askedFor other world := by
    intro other carriesOther
    rw [carries.unique carriesOther, decide_world]
  have carried : ¬ ∀ other, ¬ Carries gateway.config.authPrefix parts other :=
    fun missing => missing token carries
  cases decision : (gateway.decide token world).1 with
  | error cause =>
    have outcome : gateway.authenticate (.ofParts parts) fresh now world =
        (.error cause, gateway, (gateway.decide token world).2) := by
      simp only [authenticate, extracted]
      rw [← Prod.eta (gateway.decide token world), decision]
    rw [outcome]
    refine ⟨fun _ => extractToken_ofParts, ⟨nofun, ?_⟩, nofun, ?_, asked,
      fun missing => absurd missing carried⟩
    · rintro ⟨other, bind, carriesOther, accepts⟩
      rw [← carries.unique carriesOther, ← decide_eq_ok_iff, decision] at accepts
      cases accepts
    · rintro _ ⟨⟩
      exact ⟨decide_error decision, rfl⟩
  | ok bind =>
    have outcome : gateway.authenticate (.ofParts parts) fresh now world =
        (.ok fresh, { gateway with pending := gateway.pending.stash fresh bind now },
          (gateway.decide token world).2) := by
      simp only [authenticate, extracted]
      rw [← Prod.eta (gateway.decide token world), decision]
    have accepts := decide_eq_ok_iff.mp decision
    rw [outcome]
    refine ⟨fun _ => extractToken_ofParts, ?_, ?_, nofun, asked,
      fun missing => absurd missing carried⟩
    · exact ⟨fun _ => ⟨token, bind, carries, accepts⟩, fun _ => ⟨fresh, rfl⟩⟩
    · rintro _ ⟨⟩
      exact ⟨rfl, rfl, token, bind, carries, accepts,
        PendingBinds.gains_stash reached unused bind now⟩

/-- A handshake is let in exactly if it carries a token, in its headers or else in its query, that
the hook accepts, or that is a client's id if there is no hook. The pending binds then gain the one
entry of that bind under the fresh token; otherwise, nothing changes in the gateway. -/
theorem authenticate_vets (gateway : Gateway World)
    (reached : PendingBinds.Reached times gateway.pending) (parts : List HandshakePart)
    (unused : gateway.pending.binds.entries[fresh]? = none) (now : Nat) (world : World) :
    gateway.Vets parts fresh times now world
      (gateway.authenticate (.ofParts parts) fresh now world) := by
  by_cases carried : ∃ token, Carries gateway.config.authPrefix parts token
  · obtain ⟨token, carries⟩ := carried
    exact vets_with_token reached carries unused now world
  · exact vets_without_token (not_exists.mp carried) fresh times now world

end Vets

/-- A gateway that keeps one bind, and asks for an author that starts with a certain word. -/
def doorman : Gateway Recording where
  config := { authPrefix := "Bearer", optionRequired := true }
  pending := (PendingBinds.new 30 5).stash ⟨"old"⟩ ⟨⟨"u1"⟩, "blue"⟩ 1
  hooks := { authenticate := some fun text world =>
    (.ok (text, "green"), world.note (.authenticating text)) }
  clock := .fixed 0

/-- A handshake that gives several tokens, under several spellings. -/
def spellings : List HandshakePart :=
  [.field "token" "u5", .header "aUTHORATION" "Bearer", .header "Token" "u3", .field "Token" "u6",
    .header "tOKEN" "u2"]

theorem spellings_vetted :
    let outcome := doorman.authenticate (.ofParts spellings) ⟨"new"⟩ 2 {}
    PendingBinds.Reached [1] doorman.pending ∧
      doorman.pending.binds.entries[(⟨"new"⟩ : CorrelationToken)]? = none ∧
      doorman.Vets spellings ⟨"new"⟩ [1] 2 {} outcome ∧ outcome.1 = .ok ⟨"new"⟩ ∧
      Carries "Bearer" spellings "u2" := by
  intro outcome
  have reached : PendingBinds.Reached [1] doorman.pending :=
    (PendingBinds.Reached.new 30 5).stash ..
  have unused : doorman.pending.binds.entries[(⟨"new"⟩ : CorrelationToken)]? = none := by
    decide +kernel
  have vets := authenticate_vets doorman reached spellings unused 2 {}
  exact ⟨reached, unused, vets, by decide +kernel, (vets.token "u2").mp (by decide +kernel)⟩

end Gateway

end SocketGateway
