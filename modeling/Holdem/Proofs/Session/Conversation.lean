import Holdem.Proofs.Session.World

/-!
# Conversations with the coordinator

What a job asks of the outside falls into parts. Some exchanges have nothing to do with credentials;
the others belong to requests that are made under a label, and each of these runs in one of a few
ways. A conversation is put together from such parts, with every labelled request made at most once,
so that what is true of all parts is true of everything that is sent.

The labels are written out here as the coordinator knows them, one for each endpoint.
-/

namespace Holdem

/-- The label under which a call is signed; calls that only read what is public have none. -/
def CoordinatorCall.label? : CoordinatorCall → Option String
  | .deal _ _ => some "request_deal"
  | .reveal _ .flop => some "request_reveal:flop"
  | .reveal _ .turn => some "request_reveal:turn"
  | .reveal _ .river => some "request_reveal:river"
  | .showdown _ => some "request_showdown"
  | .act _ action => some ("player_action:" ++ action.label)
  | .cards _ _ => some "get_player_cards"
  | .create _ => some "create_table"
  | .join _ => some "join_table"
  | .state _ | .openTables | .lobby _ | .chainConfig | .committee => none

/-- Every call is signed for its own label. -/
theorem CoordinatorCall.label?_eq (call : CoordinatorCall) :
    call.label? = call.purpose?.map Purpose.label := by
  cases call with
  | reveal tableId street => cases street <;> rfl
  | _ => rfl

/-- Whether a request neither carries credentials nor prepares any, nor would have to. -/
def Request.isPlain : Request → Bool
  | .coordinator none call => call.label?.isNone
  | .coordinator (some _) _ | .signMessage _ | .clock => false
  | .signTransaction _ _ | .ledger _ | .wait _ | .reply _ _ => true

/-- Whether an exchange sends a call. -/
def Exchange.sends (call : CoordinatorCall) : Exchange → Bool
  | ⟨.coordinator _ sent, _⟩ => sent = call
  | _ => false

namespace Settings

variable (settings : Settings)

/-- The hero's envelope for a call. -/
def envelope (call : CoordinatorCall) (label : String) (now : ClockReading) (nonce : Nat)
    (signature : String) : Envelope where
  address := settings.hero
  nonce := nonce
  timestamp := now.seconds
  signature := signature
  message := canonicalMessage settings.hero call.tableId label nonce now.seconds

/-- How a call is signed and sent: not without a name, and not without the wallet. -/
inductive Signing (call : CoordinatorCall) (label : String) : List Exchange → Prop
  | nameless (nameless : settings.hero = "") : Signing call label []
  | refused (named : settings.hero ≠ "") (now : ClockReading) (nonce : Nat) (fault : WalletFault) :
      Signing call label
        [⟨.clock, now⟩,
          ⟨.signMessage (canonicalMessage settings.hero call.tableId label nonce now.seconds),
            .error fault⟩]
  | sent (named : settings.hero ≠ "") (now : ClockReading) (nonce : Nat) (signature : String)
      (answer : Except CoordinatorFault call.Reply) :
      Signing call label
        [⟨.clock, now⟩,
          ⟨.signMessage (canonicalMessage settings.hero call.tableId label nonce now.seconds),
            .ok signature⟩,
          ⟨.coordinator (some (.signed (settings.envelope call label now nonce signature))) call,
            answer⟩]

/-- What stands before the signing of a call: nothing, or a refusal of the hero's mere name where
that is sent first. -/
inductive Opening (call : CoordinatorCall) : List Exchange → Prop
  | signed (signs : settings.unsignedFirst = false) : Opening call []
  | refused (names : settings.unsignedFirst = true) (fault : CoordinatorFault)
      (unauthorized : fault.isUnauthorized) :
      Opening call [⟨.coordinator (some (.identity settings.hero)) call, .error fault⟩]

/-- How a labelled request runs. Where the name is sent first, an answer is final unless it refuses
the sender. -/
inductive Attempt (call : CoordinatorCall) (label : String) : List Exchange → Prop
  | final (names : settings.unsignedFirst = true) (answer : Except CoordinatorFault call.Reply)
      (final : ∀ fault, answer = .error fault → ¬fault.isUnauthorized) :
      Attempt call label [⟨.coordinator (some (.identity settings.hero)) call, answer⟩]
  | signing {opening block : List Exchange} (opens : settings.Opening call opening)
      (signing : settings.Signing call label block) : Attempt call label (opening ++ block)

/-- Plain exchanges and labelled requests one after another, with the calls that were attempted; no
call is attempted twice. -/
inductive Conversation : List CoordinatorCall → List Exchange → Prop
  | nil : Conversation [] []
  | plain {calls : List CoordinatorCall} {traffic : List Exchange} {exchange : Exchange}
      (before : Conversation calls traffic) (plain : exchange.request.isPlain) :
      Conversation calls (traffic ++ [exchange])
  | attempt {calls : List CoordinatorCall} {traffic block : List Exchange} {call : CoordinatorCall}
      {label : String} (before : Conversation calls traffic) (labelled : call.label? = some label)
      (fresh : call ∉ calls) (attempt : settings.Attempt call label block) :
      Conversation (call :: calls) (traffic ++ block)

variable {settings} {call other : CoordinatorCall} {label : String} {exchange : Exchange}
  {opening block traffic : List Exchange} {calls : List CoordinatorCall}

/-! ## Parts of a conversation -/

theorem Opening.mem (opens : settings.Opening call opening) (member : exchange ∈ opening) :
    settings.unsignedFirst = true ∧ ∃ fault : CoordinatorFault, fault.isUnauthorized ∧
      exchange = ⟨.coordinator (some (.identity settings.hero)) call, .error fault⟩ := by
  cases opens with
  | signed => exact absurd member List.not_mem_nil
  | refused names fault unauthorized =>
    exact ⟨names, fault, unauthorized, List.mem_singleton.mp member⟩

theorem Signing.mem (signing : settings.Signing call label block) (member : exchange ∈ block) :
    (∃ now, exchange = ⟨.clock, now⟩) ∨
      (∃ now nonce answer, exchange =
        ⟨.signMessage (canonicalMessage settings.hero call.tableId label nonce now), answer⟩) ∨
      ∃ now nonce signature answer, exchange =
        ⟨.coordinator (some (.signed (settings.envelope call label now nonce signature))) call,
          answer⟩ := by
  cases signing with
  | nameless => exact absurd member List.not_mem_nil
  | refused named now nonce fault =>
    rcases List.mem_cons.mp member with rfl | member
    · exact Or.inl ⟨now, rfl⟩
    · exact Or.inr (Or.inl ⟨now.seconds, nonce, _, List.mem_singleton.mp member⟩)
  | sent named now nonce signature answer =>
    rcases List.mem_cons.mp member with rfl | member
    · exact Or.inl ⟨now, rfl⟩
    rcases List.mem_cons.mp member with rfl | member
    · exact Or.inr (Or.inl ⟨now.seconds, nonce, _, rfl⟩)
    · exact Or.inr (Or.inr ⟨now, nonce, signature, answer, List.mem_singleton.mp member⟩)

theorem Attempt.eq_of_sends (attempt : settings.Attempt call label block)
    (member : exchange ∈ block) (sends : exchange.sends other) : other = call := by
  cases attempt with
  | final names answer =>
    rw [List.mem_singleton.mp member] at sends
    exact (of_decide_eq_true sends).symm
  | signing opens signing =>
    rcases List.mem_append.mp member with early | late
    · rcases opens.mem early with ⟨_, fault, _, rfl⟩
      exact (of_decide_eq_true sends).symm
    · rcases signing.mem late with ⟨now, rfl⟩ | ⟨now, nonce, answer, rfl⟩ |
        ⟨now, nonce, signature, answer, rfl⟩
      · exact absurd sends (by simp [Exchange.sends])
      · exact absurd sends (by simp [Exchange.sends])
      · exact (of_decide_eq_true sends).symm

/-- A plain exchange sends no call that has a label. -/
theorem label?_of_plain (plain : exchange.request.isPlain) (sends : exchange.sends call) :
    call.label? = none := by
  rcases exchange with ⟨request, answer⟩
  cases request with
  | coordinator credentials sent =>
    have same : sent = call := of_decide_eq_true sends
    subst same
    cases credentials with
    | none => simpa [Request.isPlain] using plain
    | some credentials => exact absurd plain (by simp [Request.isPlain])
  | _ => exact absurd sends (by simp [Exchange.sends])

/-- Whatever labelled call is sent in a conversation was attempted in it. -/
theorem Conversation.attempted (conversation : settings.Conversation calls traffic)
    (labelled : call.label? = some label) (member : exchange ∈ traffic)
    (sends : exchange.sends call) : call ∈ calls := by
  induction conversation with
  | nil => exact absurd member List.not_mem_nil
  | plain before plain hypothesis =>
    rcases List.mem_append.mp member with early | late
    · exact hypothesis early
    · rw [List.mem_singleton.mp late] at sends
      rw [label?_of_plain plain sends] at labelled
      exact absurd labelled (by simp)
  | attempt before _ _ attempt hypothesis =>
    rcases List.mem_append.mp member with early | late
    · exact List.mem_cons_of_mem _ (hypothesis early)
    · rw [attempt.eq_of_sends late sends]
      exact List.mem_cons_self

/-! ## What holds of all that is sent -/

/-- The requests that are made for one call: none, one with the hero's name or with an envelope, or
both, where the name was refused. -/
inductive Sent (settings : Settings) (call : CoordinatorCall) : List Exchange → Prop
  | never : Sent settings call []
  | named (names : settings.unsignedFirst = true) (answer : Except CoordinatorFault call.Reply) :
      Sent settings call [⟨.coordinator (some (.identity settings.hero)) call, answer⟩]
  | signed (signs : settings.unsignedFirst = false) (envelope : Envelope)
      (answer : Except CoordinatorFault call.Reply) :
      Sent settings call [⟨.coordinator (some (.signed envelope)) call, answer⟩]
  | again (names : settings.unsignedFirst = true) (fault : CoordinatorFault)
      (unauthorized : fault.isUnauthorized) (envelope : Envelope)
      (answer : Except CoordinatorFault call.Reply) :
      Sent settings call
        [⟨.coordinator (some (.identity settings.hero)) call, .error fault⟩,
          ⟨.coordinator (some (.signed envelope)) call, answer⟩]

/-- Requests are vouched for: whatever is sent under a label names the hero, by an envelope for this
very call or, where that is allowed, by the mere name; an envelope goes out right after the wallet
has signed it; and no call is sent more often than `Sent` says. -/
structure Vouched (settings : Settings) (traffic : List Exchange) : Prop where
  credentials : ∀ credentials call answer label,
    ⟨.coordinator credentials call, answer⟩ ∈ traffic → call.label? = some label →
      (∃ envelope, credentials = some (.signed envelope) ∧ envelope.address = settings.hero ∧
        envelope.message = canonicalMessage settings.hero call.tableId label envelope.nonce
          envelope.timestamp) ∨
      settings.unsignedFirst = true ∧ credentials = some (.identity settings.hero)
  granted : ∀ envelope call answer,
    ⟨.coordinator (some (.signed envelope)) call, answer⟩ ∈ traffic → settings.hero ≠ "" ∧
      ∃ before after, traffic = before ++
        ⟨.signMessage envelope.message, .ok envelope.signature⟩ ::
          ⟨.coordinator (some (.signed envelope)) call, answer⟩ :: after
  sent : ∀ call label, call.label? = some label →
    settings.Sent call (traffic.filter (Exchange.sends call))

/-- Where an answer refused the hero's mere name, the call was sent again with an envelope, or the
wallet would not sign it. -/
def Answered (settings : Settings) (traffic : List Exchange) : Prop :=
  settings.hero ≠ "" → ∀ call label fault, call.label? = some label → fault.isUnauthorized →
    ⟨.coordinator (some (.identity settings.hero)) call, .error fault⟩ ∈ traffic →
      (∃ envelope answer, ⟨.coordinator (some (.signed envelope)) call, answer⟩ ∈ traffic) ∨
      ∃ nonce timestamp refusal,
        ⟨.signMessage (canonicalMessage settings.hero call.tableId label nonce timestamp),
          .error refusal⟩ ∈ traffic

theorem filter_sends_eq_nil (silent : ∀ exchange ∈ traffic, ¬exchange.sends call) :
    traffic.filter (Exchange.sends call) = [] :=
  List.filter_eq_nil_iff.mpr silent

theorem Opening.filter_sends (opens : settings.Opening call opening) :
    opening.filter (Exchange.sends call) = opening := by
  apply List.filter_eq_self.mpr
  intro exchange member
  rcases opens.mem member with ⟨_, fault, _, rfl⟩
  exact decide_eq_true rfl

/-- While a call is signed it is sent with its envelope or not at all. -/
theorem Signing.filter_sends (signing : settings.Signing call label block) :
    block.filter (Exchange.sends call) = [] ∨ ∃ envelope answer,
      block.filter (Exchange.sends call) =
        [⟨.coordinator (some (.signed envelope)) call, answer⟩] := by
  cases signing with
  | nameless => exact Or.inl rfl
  | refused => exact Or.inl rfl
  | sent named now nonce signature answer =>
    refine Or.inr ⟨settings.envelope call label now nonce signature, answer, ?_⟩
    simp [Exchange.sends]

theorem Opening.sent (opens : settings.Opening call opening) : settings.Sent call opening := by
  cases opens with
  | signed => exact .never
  | refused names fault => exact .named names (.error fault)

theorem Attempt.sent (attempt : settings.Attempt call label block) :
    settings.Sent call (block.filter (Exchange.sends call)) := by
  cases attempt with
  | final names answer =>
    simp only [Exchange.sends, decide_true, List.filter_cons_of_pos, List.filter_nil]
    exact .named names answer
  | signing opens signing =>
    rw [List.filter_append, opens.filter_sends]
    rcases signing.filter_sends with none | ⟨envelope, answer, one⟩
    · rw [none, List.append_nil]
      exact opens.sent
    · rw [one]
      cases opens with
      | signed signs => exact .signed signs envelope answer
      | refused names fault unauthorized => exact .again names fault unauthorized envelope answer

/-! ## Putting parts together -/

/-- Parts that are vouched for make up a whole that is, when no labelled call is sent in both. -/
theorem Vouched.append {first second : List Exchange} (firstVouched : settings.Vouched first)
    (secondVouched : settings.Vouched second)
    (apart : ∀ call label, call.label? = some label →
      first.filter (Exchange.sends call) = [] ∨ second.filter (Exchange.sends call) = []) :
    settings.Vouched (first ++ second) where
  credentials credentials call answer label member labelled := by
    rcases List.mem_append.mp member with early | late
    · exact firstVouched.credentials credentials call answer label early labelled
    · exact secondVouched.credentials credentials call answer label late labelled
  granted envelope call answer member := by
    rcases List.mem_append.mp member with early | late
    · rcases firstVouched.granted envelope call answer early with ⟨named, before, after, eq⟩
      exact ⟨named, before, after ++ second, by rw [eq]; simp⟩
    · rcases secondVouched.granted envelope call answer late with ⟨named, before, after, eq⟩
      exact ⟨named, first ++ before, after, by rw [eq]; simp⟩
  sent call label labelled := by
    rw [List.filter_append]
    rcases apart call label labelled with none | none
    · rw [none, List.nil_append]
      exact secondVouched.sent call label labelled
    · rw [none, List.append_nil]
      exact firstVouched.sent call label labelled

/-- Exchanges that send no labelled call and no envelope are vouched for. -/
theorem vouched_of_silent (silent : ∀ exchange ∈ traffic, ∀ call label,
      call.label? = some label → ¬exchange.sends call)
    (unsigned : ∀ envelope call answer,
      ⟨.coordinator (some (.signed envelope)) call, answer⟩ ∉ traffic) :
    settings.Vouched traffic where
  credentials _ call _ label member labelled :=
    absurd (decide_eq_true rfl) (silent _ member call label labelled)
  granted envelope call answer member := absurd member (unsigned envelope call answer)
  sent call label labelled := by
    rw [filter_sends_eq_nil fun exchange member => silent exchange member call label labelled]
    exact .never

theorem vouched_nil : settings.Vouched [] :=
  vouched_of_silent (fun _ member => absurd member List.not_mem_nil)
    fun _ _ _ => List.not_mem_nil

theorem vouched_plain (plain : exchange.request.isPlain) : settings.Vouched [exchange] := by
  apply vouched_of_silent
  · intro other member call label labelled sends
    rw [List.mem_singleton.mp member] at sends
    rw [label?_of_plain plain sends] at labelled
    exact absurd labelled (by simp)
  · intro envelope call answer member
    rw [← List.mem_singleton.mp member] at plain
    exact absurd plain (by simp [Request.isPlain])

theorem Opening.vouched (opens : settings.Opening call opening) : settings.Vouched opening where
  credentials credentials sentCall answer _ member _ := by
    rcases opens.mem member with ⟨names, fault, _, eq⟩
    simp only [Exchange.mk.injEq, Request.coordinator.injEq] at eq
    exact Or.inr ⟨names, eq.1.1⟩
  granted envelope sentCall answer member := by
    rcases opens.mem member with ⟨_, fault, _, eq⟩
    exact absurd eq (by simp)
  sent sentCall _ _ := by
    by_cases same : sentCall = call
    · rw [same, opens.filter_sends]
      exact opens.sent
    · rw [filter_sends_eq_nil]
      · exact .never
      · intro exchange member sends
        rcases opens.mem member with ⟨_, fault, _, rfl⟩
        exact same (of_decide_eq_true sends).symm

theorem Attempt.vouched (attempt : settings.Attempt call label block)
    (labelled : call.label? = some label) : settings.Vouched block where
  credentials credentials sentCall answer sentLabel member sentLabelled := by
    cases attempt with
    | final names =>
      simp only [List.mem_singleton, Exchange.mk.injEq, Request.coordinator.injEq] at member
      exact Or.inr ⟨names, member.1.1⟩
    | signing opens signing =>
      rcases List.mem_append.mp member with early | late
      · exact opens.vouched.credentials credentials sentCall answer sentLabel early sentLabelled
      · rcases signing.mem late with ⟨now, eq⟩ | ⟨now, nonce, given, eq⟩ |
          ⟨now, nonce, signature, given, eq⟩
        · exact absurd eq (by simp)
        · exact absurd eq (by simp)
        · simp only [Exchange.mk.injEq, Request.coordinator.injEq] at eq
          rcases eq with ⟨⟨sentEq, rfl⟩, _⟩
          rw [labelled, Option.some.injEq] at sentLabelled
          exact Or.inl ⟨_, sentEq, rfl, by rw [← sentLabelled]; rfl⟩
  granted envelope sentCall answer member := by
    cases attempt with
    | final => simp at member
    | @signing opening _ opens signing =>
      rcases List.mem_append.mp member with early | late
      · rcases opens.mem early with ⟨_, fault, _, eq⟩
        exact absurd eq (by simp)
      · cases signing with
        | nameless => exact absurd late List.not_mem_nil
        | refused => exact absurd late (by simp)
        | sent named now nonce signature given =>
          rcases List.mem_cons.mp late with eq | late
          · exact absurd eq (by simp)
          rcases List.mem_cons.mp late with eq | late
          · exact absurd eq (by simp)
          cases List.mem_singleton.mp late
          exact ⟨named, opening ++ [⟨.clock, now⟩], [], by simp [envelope]⟩
  sent sentCall _ _ := by
    by_cases same : sentCall = call
    · rw [same]
      exact attempt.sent
    · rw [filter_sends_eq_nil]
      · exact .never
      · intro exchange member sends
        exact same (attempt.eq_of_sends member sends)

theorem Conversation.vouched (conversation : settings.Conversation calls traffic) :
    settings.Vouched traffic := by
  induction conversation with
  | nil => exact vouched_nil
  | plain before plain hypothesis =>
    apply hypothesis.append (vouched_plain plain)
    intro call label labelled
    right
    apply filter_sends_eq_nil
    intro exchange member sends
    rw [List.mem_singleton.mp member] at sends
    rw [label?_of_plain plain sends] at labelled
    exact absurd labelled (by simp)
  | @attempt calls traffic block call label before labelled fresh attempt hypothesis =>
    apply hypothesis.append (attempt.vouched labelled)
    intro other otherLabel otherLabelled
    by_cases same : other = call
    · left
      apply filter_sends_eq_nil
      intro exchange member sends
      apply fresh
      rw [← same]
      exact before.attempted otherLabelled member sends
    · right
      apply filter_sends_eq_nil
      intro exchange member sends
      exact same (attempt.eq_of_sends member sends)

/-- A refusal of the mere name is answered within the attempt in which it occurs. -/
theorem Attempt.answered (attempt : settings.Attempt call label block)
    (labelled : call.label? = some label) : settings.Answered block := by
  intro named sentCall sentLabel fault sentLabelled unauthorized member
  cases attempt with
  | final names answer final =>
    cases List.mem_singleton.mp member
    exact absurd unauthorized (final fault rfl)
  | signing opens signing =>
    rcases List.mem_append.mp member with early | late
    · rcases opens.mem early with ⟨_, _, _, eq⟩
      simp only [Exchange.mk.injEq, Request.coordinator.injEq] at eq
      rcases eq with ⟨⟨_, rfl⟩, _⟩
      rw [labelled, Option.some.injEq] at sentLabelled
      subst sentLabelled
      cases signing with
      | nameless nameless => exact absurd nameless named
      | refused _ now nonce refusal => exact Or.inr ⟨nonce, now.seconds, refusal, by simp⟩
      | sent _ now nonce signature answer =>
        exact Or.inl ⟨settings.envelope sentCall label now nonce signature, answer, by simp⟩
    · rcases signing.mem late with ⟨now, eq⟩ | ⟨now, nonce, given, eq⟩ |
        ⟨now, nonce, signature, given, eq⟩
      · exact absurd eq (by simp)
      · exact absurd eq (by simp)
      · exact absurd eq (by simp)

theorem Answered.append {first second : List Exchange} (firstAnswered : settings.Answered first)
    (secondAnswered : settings.Answered second) : settings.Answered (first ++ second) := by
  intro named call label fault labelled unauthorized member
  rcases List.mem_append.mp member with early | late
  · rcases firstAnswered named call label fault labelled unauthorized early with
      ⟨envelope, answer, sent⟩ | ⟨nonce, timestamp, refusal, refused⟩
    · exact Or.inl ⟨envelope, answer, List.mem_append_left _ sent⟩
    · exact Or.inr ⟨nonce, timestamp, refusal, List.mem_append_left _ refused⟩
  · rcases secondAnswered named call label fault labelled unauthorized late with
      ⟨envelope, answer, sent⟩ | ⟨nonce, timestamp, refusal, refused⟩
    · exact Or.inl ⟨envelope, answer, List.mem_append_right _ sent⟩
    · exact Or.inr ⟨nonce, timestamp, refusal, List.mem_append_right _ refused⟩

theorem Conversation.answered (conversation : settings.Conversation calls traffic) :
    settings.Answered traffic := by
  induction conversation with
  | nil =>
    intro _ call label fault _ _ member
    exact absurd member List.not_mem_nil
  | plain before plain hypothesis =>
    apply hypothesis.append
    intro _ call label fault _ _ member
    rw [← List.mem_singleton.mp member] at plain
    exact absurd plain (by simp [Request.isPlain])
  | attempt before labelled fresh attempt hypothesis =>
    exact hypothesis.append (attempt.answered labelled)

end Settings

end Holdem
