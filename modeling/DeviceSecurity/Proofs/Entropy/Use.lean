import DeviceSecurity.Proofs.Cipher.RoundTrip
import DeviceSecurity.Proofs.Curve.Draw
import Mathlib.Data.List.Forall2

/-!
# Uses of entropy

Entropy is used for the nonces of messages in shared-key mode and for the scalars of key pairs. What
a use needs is next in the stream when it is drawn: the nonce is the next bytes
(`SealContext.exists_draws`), and the scalar the first candidate in range behind a probe
(`KeyPair.exists_draws`). Uses one behind the other have places in the stream that do not overlap
(`EntropyUse.pairwise_places`).
-/

namespace DeviceSecurity

/-- What entropy is used for. -/
inductive EntropyUse where
  /-- The nonce of a message. -/
  | nonce (bytes : Bytes)
  /-- The scalar of a key pair, behind a probe and the candidates that were skipped. -/
  | scalar (c : Curve) (probe : Bytes) (skipped : List Bytes) (chosen : Bytes)

namespace EntropyUse

/-- The bytes of a use in the order of the stream. -/
def bytes : EntropyUse → Bytes
  | nonce b => b
  | scalar _ probe skipped chosen => probe ++ skipped.flatten ++ chosen

/-- A nonce and a probe have their sizes, candidates are as long as a coordinate, and the first one
in range is the scalar. -/
inductive WellFormed : EntropyUse → Prop
  | nonce {b : Bytes} (hlength : b.length = Gcm.nonceSize) : WellFormed (nonce b)
  | scalar {c : Curve} {probe chosen : Bytes} {skipped : List Bytes}
    (hprobe : probe.length = KeyPair.probeSize)
    (hskipped : ∀ x ∈ skipped, x.length = c.fieldSize ∧ ¬ c.IsScalar (Bytes.toNat x))
    (hchosen : chosen.length = c.fieldSize) (hscalar : c.IsScalar (Bytes.toNat chosen)) :
    WellFormed (scalar c probe skipped chosen)

/-! ## Places -/

/-- The places of uses that follow each other from some place on, each by its begin and its end. -/
def places (start : Nat) : List EntropyUse → List (Nat × Nat)
  | [] => []
  | use :: later => (start, start + use.bytes.length) :: places (start + use.bytes.length) later

theorem le_of_mem_places {start : Nat} {uses : List EntropyUse} {place : Nat × Nat}
    (h : place ∈ places start uses) : start ≤ place.1 := by
  induction uses generalizing start with
  | nil => cases h
  | cons use later ih =>
    rcases List.mem_cons.mp h with rfl | h
    · exact Nat.le_refl _
    · have hle := ih h
      omega

/-- Places do not overlap. -/
theorem pairwise_places (start : Nat) (uses : List EntropyUse) :
    (places start uses).Pairwise fun a b => a.2 ≤ b.1 := by
  induction uses generalizing start with
  | nil => exact .nil
  | cons use later ih => exact .cons (fun place h => le_of_mem_places h) (ih _)

end EntropyUse

namespace Entropy

/-- The stream begins with the bytes of the uses, and goes on with the rest. -/
structure Spends (e : Entropy) (uses : List EntropyUse) (rest : Entropy) : Prop where
  front : e = uses.flatMap EntropyUse.bytes ++ rest
  wellFormed : ∀ use ∈ uses, use.WellFormed

namespace Spends

theorem nil (e : Entropy) : e.Spends [] e := ⟨rfl, nofun⟩

theorem single {use : EntropyUse} (h : use.WellFormed) (rest : Entropy) :
    Spends (use.bytes ++ rest) [use] rest :=
  ⟨by simp, List.forall_mem_singleton.mpr h⟩

theorem append {e e' rest : Entropy} {uses later : List EntropyUse} (h : e.Spends uses e')
    (hlater : e'.Spends later rest) : e.Spends (uses ++ later) rest where
  front := by rw [h.front, hlater.front, List.flatMap_append, List.append_assoc]
  wellFormed := by
    intro use huse
    exact (List.mem_append.mp huse).elim (h.wellFormed use) (hlater.wellFormed use)

end Spends

/-- The stream holds the bytes of the uses at their places. -/
def Holds (e : Entropy) : List EntropyUse → List (Nat × Nat) → Prop :=
  List.Forall₂ fun use place => use.bytes = (e.take place.2).drop place.1

theorem holds_places (before : Entropy) (uses : List EntropyUse) (rest : Entropy) :
    Holds (before ++ uses.flatMap EntropyUse.bytes ++ rest) uses
      (EntropyUse.places before.length uses) := by
  induction uses generalizing before with
  | nil => exact .nil
  | cons use later ih =>
    have hplace : ((before ++ (use :: later).flatMap EntropyUse.bytes ++ rest).take
        (before.length + use.bytes.length)).drop before.length = use.bytes := by
      simp [List.take_append]
    -- What the later uses find before them ends with this one.
    have hlater := ih (before ++ use.bytes)
    rw [List.length_append, List.append_assoc before, ← List.flatMap_cons] at hlater
    exact .cons hplace.symm hlater

theorem Spends.holds {e rest : Entropy} {uses : List EntropyUse} (h : e.Spends uses rest) :
    e.Holds uses (EntropyUse.places 0 uses) := by
  rw [h.front]
  exact holds_places [] uses rest

end Entropy

/-! ## Nonces -/

namespace SealContext

/-- How a text is sealed, with the result and the entropy that is left. In device-bound mode no
entropy is used; in shared-key mode the next bytes are the nonce and, if they are too few, none of
them is taken. -/
inductive Draws (c : SealContext) (text : Bytes) (e : Entropy) :
    List EntropyUse → Except Error SealedMessage × Entropy → Prop
  | deviceBound (hmode : c.mode = .deviceBound) :
    Draws c text e [] (c.sealWith deviceBoundNonce text, e)
  | unfilled (hmode : c.mode = .sharedKey) (h : e.length < Gcm.nonceSize) :
    Draws c text e [] (.error .rngFailed, e)
  | fresh {nonce rest : Bytes} (hmode : c.mode = .sharedKey)
    (hlength : nonce.length = Gcm.nonceSize) (he : e = nonce ++ rest) :
    Draws c text e [.nonce nonce] (c.sealWith nonce text, rest)

variable {c : SealContext} {e : Entropy}

theorem exists_draws (c : SealContext) (text : Bytes) (e : Entropy) :
    ∃ uses, c.Draws text e uses (c.sealBytes text e) := by
  unfold sealBytes
  cases hmode : c.mode with
  | deviceBound =>
    rw [nonce_deviceBound hmode]
    exact ⟨[], .deviceBound hmode⟩
  | sharedKey =>
    rw [nonce_sharedKey hmode]
    by_cases hshort : e.length < Gcm.nonceSize
    · rw [if_pos hshort]
      exact ⟨[], .unfilled hmode hshort⟩
    · rw [if_neg hshort]
      have hlength : (e.take Gcm.nonceSize).length = Gcm.nonceSize := by
        rw [List.length_take]
        omega
      exact ⟨[_], .fresh hmode hlength (List.take_append_drop _ e).symm⟩

theorem Draws.spends {text : Bytes} {uses : List EntropyUse}
    {result : Except Error SealedMessage} {rest : Entropy}
    (h : c.Draws text e uses (result, rest)) : e.Spends uses rest := by
  cases h with
  | deviceBound => exact .nil e
  | unfilled => exact .nil e
  | fresh hmode hlength he =>
    rw [he]
    exact .single (.nonce hlength) rest

end SealContext

/-! ## Scalars -/

namespace KeyPair

/-- The stream does not end while candidates are drawn. -/
def Supplied (c : Curve) (e : Entropy) : Prop :=
  ¬ ∃ probe rest, probe.length = probeSize ∧ e = probe ++ rest ∧ NoScalar c rest

/-- How a key pair is generated, with the result and the entropy that is left. -/
inductive Draws (c : Curve) (e : Entropy) :
    List EntropyUse → Except Error KeyPair × Entropy → Prop
  | unfilled (h : e.length < probeSize) : Draws c e [] (.error .rngFailed, e)
  | drawn {probe chosen rest : Bytes} {skipped : List Bytes}
    (h : (EntropyUse.scalar c probe skipped chosen).WellFormed)
    (he : e = (EntropyUse.scalar c probe skipped chosen).bytes ++ rest) :
    Draws c e [.scalar c probe skipped chosen] (.ok ⟨c, Bytes.toNat chosen⟩, rest)

variable {c : Curve} {e : Entropy}

theorem supplied_of_generate {pair : KeyPair} (h : (generate c e).1 = .ok pair) :
    Supplied c e := by
  intro hrun
  cases h.symm.trans (generate_eq_error.mpr ⟨rfl, .inr hrun⟩)

theorem exists_draws (h : Supplied c e) : ∃ uses, Draws c e uses (generate c e) := by
  rcases hpair : generate c e with ⟨fault | pair, rest⟩
  · obtain ⟨rfl, hshort | hrun⟩ := generate_eq_error.mp (congrArg Prod.fst hpair)
    · rw [generate_of_short hshort] at hpair
      obtain rfl : e = rest := congrArg Prod.snd hpair
      exact ⟨[], .unfilled hshort⟩
    · exact (h hrun).elim
  · obtain ⟨probe, skipped, chosen, he, hprobe, hskipped, hchosen, hscalar, rfl⟩ :=
      of_generate_eq_ok hpair
    exact ⟨[_], .drawn (.scalar hprobe hskipped hchosen hscalar) he⟩

theorem Draws.spends {uses : List EntropyUse} {result : Except Error KeyPair} {rest : Entropy}
    (h : Draws c e uses (result, rest)) : e.Spends uses rest := by
  cases h with
  | unfilled => exact .nil e
  | drawn h he =>
    rw [he]
    exact .single h rest

end KeyPair

end DeviceSecurity
