import DeviceSecurity.Proofs.Entropy.Vault
import DeviceSecurity.Proofs.Session.Step
import Mathlib.Logic.Function.Basic

/-!
# Runs on one stream of entropy

Sessions, direct seals and vaults of a device draw from one stream. `Device.Step` says for each
command what it uses, and from it follows for every run that the uses are taken from the stream one
after the other: each finds its bytes next, none of them is given out twice, and what is left is the
stream behind them (`Device.uses_of_run`).
-/

namespace DeviceSecurity

/-- Sessions by their numbers, the state of what vaults store in, and the entropy that all share. -/
structure Device (σ : Type) where
  sessions : Nat → Session
  store : σ
  entropy : Entropy

namespace Session

/-- Commands that ask for entropy. -/
def Command.MayDraw : Command → Prop
  | .generate _ | .encrypt .. => True
  | .publicKey | .publicKeyInfo | .derive _ | .decrypt .. | .signRequest .. | .clear => False

/-- The entropy that a command leaves of what it finds. -/
def left (s : Session) (e : Entropy) : Command → Entropy
  | .generate c => (s.generate c e).2
  | .encrypt text mode => (s.encrypt text mode e).2
  | .publicKey | .publicKeyInfo | .derive _ | .decrypt .. | .signRequest .. | .clear => e

end Session

namespace Device

variable {σ : Type}

/-! ## Commands -/

/-- What can be asked of a device: a command to one of its sessions, sealing and opening in any
context, sealing a storage key, or a request to a vault. -/
inductive Command (σ : Type) where
  | session (i : Nat) (command : Session.Command)
  | sealBytes (context : SealContext) (text : Bytes)
  | sealText (context : SealContext) (text : String)
  | openBytes (context : SealContext) (m : SealedMessage)
  | openText (context : SealContext) (sealed : String)
  | sealKey (codec : StorageCodec) (key : String)
  | vault (v : Vault σ) (request : VaultRequest)

/-- What comes back. -/
inductive Reply where
  | text (reply : Except Error String)
  | bytes (reply : Except Error Bytes)
  | message (reply : Except Error SealedMessage)
  | vault (reply : Except Error (VaultReply (List String)))

/-- The device with another state of one session. -/
def withSession (d : Device σ) (i : Nat) (s : Session) : Device σ :=
  { d with sessions := Function.update d.sessions i s }

/-- The device with the entropy that is left. -/
def withEntropy (d : Device σ) (rest : Entropy) : Device σ := { d with entropy := rest }

/-- Carries out a command. -/
def serve (d : Device σ) : Command σ → Reply × Device σ
  | .session i command =>
    (.text ((d.sessions i).answer d.entropy command),
      (d.withSession i ((d.sessions i).after d.entropy command)).withEntropy
        ((d.sessions i).left d.entropy command))
  | .sealBytes context text =>
    (.message (context.sealBytes text d.entropy).1,
      d.withEntropy (context.sealBytes text d.entropy).2)
  | .sealText context text =>
    (.text (context.sealText text d.entropy).1, d.withEntropy (context.sealText text d.entropy).2)
  | .openBytes context m => (.bytes (context.openBytes m), d)
  | .openText context sealed => (.text (context.openText sealed), d)
  | .sealKey codec key =>
    (.text (codec.encryptValue key false d.entropy).1,
      d.withEntropy (codec.encryptValue key false d.entropy).2)
  | .vault v request =>
    let (reply, s) := (v.serve request).runOn ⟨d.store, d.entropy⟩
    (.vault reply, ⟨d.sessions, s.store, s.entropy⟩)

/-- Carries out one command after the other. -/
def run : Device σ → List (Command σ) → List Reply × Device σ
  | d, [] => ([], d)
  | d, command :: later =>
    let (reply, d) := d.serve command
    let (replies, d) := run d later
    (reply :: replies, d)

/-! ## Steps -/

/-- What a command uses, with the reply and the device that it leads to. -/
inductive Step (d : Device σ) : Command σ → List EntropyUse → Reply × Device σ → Prop
  | generated {i : Nat} {c : Curve} {pair : KeyPair} {uses : List EntropyUse} {rest : Entropy}
    (h : KeyPair.Draws c d.entropy uses (.ok pair, rest)) :
    Step d (.session i (.generate c)) uses
      (.text (.ok (Base64.encode .standard pair.publicKey.pointBytes)),
        (d.withSession i ⟨some pair, none⟩).withEntropy rest)
  | notGenerated {i : Nat} {c : Curve} {fault : Error} {uses : List EntropyUse} {rest : Entropy}
    (h : KeyPair.Draws c d.entropy uses (.error fault, rest)) :
    Step d (.session i (.generate c)) uses (.text (.error fault), d.withEntropy rest)
  | encrypted {i : Nat} {text : String} {mode : SealMode} {active : ActiveSecret}
    {uses : List EntropyUse} {result : Except Error SealedMessage} {rest : Entropy}
    (hactive : (d.sessions i).active = some active)
    (h : SealContext.Draws ⟨mode, active.channelKey, []⟩ (Bytes.ofText text) d.entropy uses
      (result, rest)) :
    Step d (.session i (.encrypt text mode)) uses
      (.text (SealedMessage.toBase64 <$> result), d.withEntropy rest)
  | noChannel {i : Nat} {text : String} {mode : SealMode}
    (hactive : (d.sessions i).active = none) :
    Step d (.session i (.encrypt text mode)) [] (.text (.error .noActiveKey), d)
  | session {i : Nat} {command : Session.Command} (h : ¬ command.MayDraw) :
    Step d (.session i command) [] (.text ((d.sessions i).answer d.entropy command),
      d.withSession i ((d.sessions i).after d.entropy command))
  | sealBytes {context : SealContext} {text : Bytes} {uses : List EntropyUse}
    {result : Except Error SealedMessage} {rest : Entropy}
    (h : context.Draws text d.entropy uses (result, rest)) :
    Step d (.sealBytes context text) uses (.message result, d.withEntropy rest)
  | sealText {context : SealContext} {text : String} {uses : List EntropyUse}
    {result : Except Error SealedMessage} {rest : Entropy}
    (h : context.Draws (Bytes.ofText text) d.entropy uses (result, rest)) :
    Step d (.sealText context text) uses
      (.text (SealedMessage.toBase64 <$> result), d.withEntropy rest)
  | openBytes {context : SealContext} {m : SealedMessage} :
    Step d (.openBytes context m) [] (.bytes (context.openBytes m), d)
  | openText {context : SealContext} {sealed : String} :
    Step d (.openText context sealed) [] (.text (context.openText sealed), d)
  | sealKey {codec : StorageCodec} {key : String} :
    Step d (.sealKey codec key) [] (.text (codec.encodeKey key), d)
  | vault {v : Vault σ} {request : VaultRequest} {uses : List EntropyUse} {s : VaultState σ}
    {reply : Except Error (VaultReply (List String))}
    (hserve : (v.serve request).runOn ⟨d.store, d.entropy⟩ = (reply, s))
    (h : v.TakesAll ⟨d.store, d.entropy⟩ request.items uses s) :
    Step d (.vault v request) uses (.vault reply, ⟨d.sessions, s.store, s.entropy⟩)

/-- The entropy does not end while the candidates of a scalar are drawn. -/
def SuppliesStep (d : Device σ) (command : Command σ) : Prop :=
  ∀ i c, command = .session i (.generate c) → KeyPair.Supplied c d.entropy

theorem withSession_self (d : Device σ) (i : Nat) : d.withSession i (d.sessions i) = d := by
  rw [withSession, Function.update_eq_self]

theorem exists_step_generate {d : Device σ} {c : Curve} (h : KeyPair.Supplied c d.entropy)
    (i : Nat) :
    ∃ uses, d.Step (.session i (.generate c)) uses (d.serve (.session i (.generate c))) := by
  obtain ⟨uses, hdraws⟩ := KeyPair.exists_draws h
  simp only [serve, Session.answer, Session.after, Session.left, Session.generate]
  rcases hpair : KeyPair.generate c d.entropy with ⟨fault | pair, rest⟩ <;> rw [hpair] at hdraws
  · rw [withSession_self]
    exact ⟨uses, .notGenerated hdraws⟩
  · exact ⟨uses, .generated hdraws⟩

theorem exists_step_encrypt (d : Device σ) (i : Nat) (text : String) (mode : SealMode) :
    ∃ uses, d.Step (.session i (.encrypt text mode)) uses
      (d.serve (.session i (.encrypt text mode))) := by
  simp only [serve, Session.answer, Session.after, Session.left, Session.encrypt, Session.channel,
    withSession_self]
  cases hactive : (d.sessions i).active with
  | none => exact ⟨[], .noChannel hactive⟩
  | some active =>
    obtain ⟨uses, hdraws⟩ := SealContext.exists_draws ⟨mode, active.channelKey, []⟩
      (Bytes.ofText text) d.entropy
    dsimp only
    rw [SealContext.sealText_eq]
    exact ⟨uses, .encrypted hactive hdraws⟩

theorem exists_step {d : Device σ} {command : Command σ} (h : d.SuppliesStep command) :
    ∃ uses, d.Step command uses (d.serve command) := by
  cases command with
  | session i command =>
    cases command with
    | generate c => exact exists_step_generate (h i c rfl) i
    | encrypt text mode => exact exists_step_encrypt d i text mode
    | publicKey | publicKeyInfo | derive | decrypt | signRequest | clear =>
      exact ⟨[], .session id⟩
  | sealBytes context text =>
    obtain ⟨uses, hdraws⟩ := context.exists_draws text d.entropy
    exact ⟨uses, .sealBytes hdraws⟩
  | sealText context text =>
    obtain ⟨uses, hdraws⟩ := context.exists_draws (Bytes.ofText text) d.entropy
    rw [serve, SealContext.sealText_eq]
    exact ⟨uses, .sealText hdraws⟩
  | openBytes context m => exact ⟨[], .openBytes⟩
  | openText context sealed => exact ⟨[], .openText⟩
  | sealKey codec key =>
    rw [serve, StorageCodec.encryptValue_key]
    exact ⟨[], .sealKey⟩
  | vault v request =>
    obtain ⟨uses, htakes⟩ := v.exists_takesAll ⟨d.store, d.entropy⟩ request
    exact ⟨uses, .vault rfl htakes⟩

theorem Step.spends {d d' : Device σ} {command : Command σ} {uses : List EntropyUse}
    {reply : Reply} (h : d.Step command uses (reply, d')) :
    d.entropy.Spends uses d'.entropy := by
  cases h with
  | generated h => exact h.spends
  | notGenerated h => exact h.spends
  | encrypted hactive h => exact h.spends
  | sealBytes h => exact h.spends
  | sealText h => exact h.spends
  | vault hserve h => exact h.spends
  | noChannel | session | openBytes | openText | sealKey => exact .nil d.entropy

/-! ## Runs -/

/-- What the commands of a run use, one after the other. -/
inductive Run : Device σ → List (Command σ) → List EntropyUse → List Reply × Device σ → Prop
  | nil (d : Device σ) : Run d [] [] ([], d)
  | cons {d d₁ d' : Device σ} {command : Command σ} {commands : List (Command σ)}
    {uses later : List EntropyUse} {reply : Reply} {replies : List Reply}
    (h : d.Step command uses (reply, d₁)) (hlater : Run d₁ commands later (replies, d')) :
    Run d (command :: commands) (uses ++ later) (reply :: replies, d')

/-- In no step of a run does the entropy end while candidates are drawn. -/
def Supplies : Device σ → List (Command σ) → Prop
  | _, [] => True
  | d, command :: later => d.SuppliesStep command ∧ Supplies (d.serve command).2 later

theorem exists_run {d : Device σ} {commands : List (Command σ)} (h : d.Supplies commands) :
    ∃ uses, Run d commands uses (d.run commands) := by
  induction commands generalizing d with
  | nil => exact ⟨[], .nil d⟩
  | cons command commands ih =>
    obtain ⟨uses, hstep⟩ := exists_step h.1
    obtain ⟨later, hlater⟩ := ih h.2
    exact ⟨uses ++ later, .cons hstep hlater⟩

theorem Run.spends {d : Device σ} {commands : List (Command σ)} {uses : List EntropyUse}
    {result : List Reply × Device σ} (h : Run d commands uses result) :
    d.entropy.Spends uses result.2.entropy := by
  induction h with
  | nil d => exact .nil d.entropy
  | cons h _ ih => exact h.spends.append ih

/-- Whatever a device is asked for, in any order and with any outcomes, the entropy is used in turn.
Every nonce of a message in shared-key mode and every scalar with what is drawn before it is next in
the stream when it is asked for, and nothing else is taken. So each use has a place of its own in
the stream, the places do not overlap, and what is left is the stream behind them. -/
theorem uses_of_run {d : Device σ} {commands : List (Command σ)} (h : d.Supplies commands) :
    ∃ uses, Run d commands uses (d.run commands) ∧
      d.entropy.Spends uses (d.run commands).2.entropy ∧
      d.entropy.Holds uses (EntropyUse.places 0 uses) ∧
      (EntropyUse.places 0 uses).Pairwise fun a b => a.2 ≤ b.1 := by
  obtain ⟨uses, hrun⟩ := exists_run h
  exact ⟨uses, hrun, hrun.spends, hrun.spends.holds, EntropyUse.pairwise_places 0 uses⟩

/-- A key pair whose first candidate is out of range, two messages, one of them in a vault, and one
that is refused as its session has no secret. -/
theorem uses_of_run_four :
    let key : CipherKey := ⟨List.replicate 16 7, by decide⟩
    let v : Vault Entries := ⟨Backing.memory, ⟨key, .strict⟩, true⟩
    let d : Device Entries := ⟨fun _ => Session.empty, [],
      List.replicate 16 5 ++ List.replicate 32 0 ++ (List.replicate 31 0 ++ [1]) ++
        List.replicate 24 9⟩
    let commands : List (Command Entries) :=
      [.session 0 (.generate .p256), .sealBytes ⟨.sharedKey, key, []⟩ [1, 2],
        .vault v (.set "k" "v"), .session 1 (.encrypt "t" .sharedKey)]
    d.Supplies commands ∧ ∃ uses, Run d commands uses (d.run commands) ∧
      d.entropy.Spends uses (d.run commands).2.entropy ∧
      d.entropy.Holds uses (EntropyUse.places 0 uses) ∧
      (EntropyUse.places 0 uses).Pairwise fun a b => a.2 ≤ b.1 := by
  intro key v d commands
  have hgenerate : (KeyPair.generate .p256 d.entropy).1 = .ok ⟨.p256, 1⟩ := by rfl
  have hfirst : d.SuppliesStep (.session 0 (.generate .p256)) := by
    rintro i c ⟨⟩
    exact KeyPair.supplied_of_generate hgenerate
  have hsupplies : d.Supplies commands := ⟨hfirst, nofun, nofun, nofun, trivial⟩
  exact ⟨hsupplies, uses_of_run hsupplies⟩

end Device

end DeviceSecurity
