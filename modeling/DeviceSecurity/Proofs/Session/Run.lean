import DeviceSecurity.Session
import DeviceSecurity.Proofs.Curve.Agreement

/-!
# Runs of a session

A run gives a session one command after another, each with entropy of its own. Whatever was asked
before, a key pair that a session holds has its scalar in range.
-/

namespace DeviceSecurity.Session

/-! ## Commands -/

/-- What can be asked of a session. -/
inductive Command where
  | generate (c : Curve)
  | publicKey
  | publicKeyInfo
  | derive (peer : String)
  | encrypt (text : String) (mode : SealMode)
  | decrypt (sealed : String) (mode : SealMode)
  | signRequest (keyId requestId : String) (body : Bytes)
  | clear

/-- The session behind a command that finds the given entropy. -/
def after (s : Session) (e : Entropy) : Command → Session
  | .generate c => (s.generate c e).1.2
  | .derive peer => (s.derive peer).2
  | .clear => s.clear
  | .publicKey | .publicKeyInfo | .encrypt .. | .decrypt .. | .signRequest .. => s

/-- Commands that only use what a session holds. -/
def Command.IsUse : Command → Prop
  | .generate _ | .derive _ | .clear => False
  | .publicKey | .publicKeyInfo | .encrypt .. | .decrypt .. | .signRequest .. => True

theorem after_of_isUse {command : Command} (h : command.IsUse) (s : Session) (e : Entropy) :
    s.after e command = s := by
  cases command <;> first | rfl | exact h.elim

/-- The sessions that commands lead to from a new one. -/
inductive Reachable : Session → Prop
  | empty : Reachable empty
  | after {s : Session} (h : Reachable s) (e : Entropy) (command : Command) :
    Reachable (s.after e command)

/-! ## Key pairs -/

/-- Agreeing with a peer keeps the key pair. -/
theorem keyPair_derive (s : Session) (peer : String) : (s.derive peer).2.keyPair = s.keyPair := by
  unfold derive
  split <;> rfl

/-- Whatever key pair a session holds is valid. -/
def HoldsValid (s : Session) : Prop := ∀ k, s.keyPair = some k → k.IsValid

theorem holdsValid_generate {s : Session} (h : s.HoldsValid) (c : Curve) (e : Entropy) :
    (s.generate c e).1.2.HoldsValid := by
  unfold generate
  split
  · next pair rest hpair =>
    intro k hk
    obtain rfl := Option.some.inj hk
    exact (KeyPair.of_generate hpair).2
  · exact h

theorem holdsValid_after {s : Session} (h : s.HoldsValid) (e : Entropy) (command : Command) :
    (s.after e command).HoldsValid := by
  cases command with
  | generate c => exact holdsValid_generate h c e
  | derive peer =>
    intro k hk
    exact h k ((keyPair_derive s peer).symm.trans hk)
  | clear =>
    intro k hk
    cases hk
  | publicKey => exact h
  | publicKeyInfo => exact h
  | encrypt text mode => exact h
  | decrypt text mode => exact h
  | signRequest keyId requestId body => exact h

/-- The key pair of a session that a run leads to is valid. -/
theorem Reachable.holdsValid {s : Session} (h : Reachable s) : s.HoldsValid := by
  induction h with
  | empty =>
    intro k hk
    cases hk
  | after _ e command ih => exact holdsValid_after ih e command

end DeviceSecurity.Session
