import Mathlib.Logic.Basic

universe u v w

namespace TurningPoint.Lib

structure Traced (ε : Type v) (α : Type u) where
  events : List ε
  value : α

namespace Traced

variable {ε : Type v} {α β : Type u}

instance : Monad (Traced ε) where
  pure a := ⟨[], a⟩
  bind m f := ⟨m.events ++ (f m.value).events, (f m.value).value⟩

def note (event : ε) : Traced ε PUnit := ⟨[event], ⟨⟩⟩

@[simp] theorem value_pure (a : α) : (pure a : Traced ε α).value = a := rfl

@[simp] theorem value_bind (m : Traced ε α) (f : α → Traced ε β) :
    (m >>= f).value = (f m.value).value := rfl

@[simp] theorem value_ite (c : Prop) [Decidable c] (m m' : Traced ε α) :
    (if c then m else m').value = if c then m.value else m'.value := apply_ite Traced.value c m m'

/-- Where an interruption after `k` events leaves off, if each event says where it leads. -/
def cut (m : Traced ε α) (k : Nat) (before : ε) : ε := (m.events.take k).getLast?.getD before

@[simp] theorem cut_pure (a : α) (k : Nat) (before : ε) :
    (pure a : Traced ε α).cut k before = before := by
  have hnone : (pure a : Traced ε α).events.take k = [] := List.take_nil
  rw [cut, hnone]
  rfl

theorem value_foldlM {ι : Type w} (f : β → ι → Traced ε β) (l : List ι) (b : β) :
    (l.foldlM f b).value = l.foldl (fun b a => (f b a).value) b := by
  induction l generalizing b with
  | nil => rfl
  | cons a l ih => exact ih (f b a).value

def All (P : ε → Prop) (m : Traced ε α) : Prop := ∀ event ∈ m.events, P event

namespace All

variable {P : ε → Prop} {m : Traced ε α}

theorem pure (a : α) : All P (Pure.pure a : Traced ε α) := List.forall_mem_nil _

theorem bind {f : α → Traced ε β} (hm : m.All P) (hf : (f m.value).All P) : (m >>= f).All P :=
  List.forall_mem_append.mpr ⟨hm, hf⟩

theorem of_bind {f : α → Traced ε β} (h : (m >>= f).All P) : m.All P :=
  (List.forall_mem_append.mp h).1

theorem ite {c : Prop} [Decidable c] {m' : Traced ε α} (hm : c → m.All P)
    (hm' : ¬ c → m'.All P) : (if c then m else m').All P := by
  split
  case isTrue hc => exact hm hc
  case isFalse hc => exact hm' hc

end All

structure Ensures (P : ε → Prop) (Q : α → Prop) (m : Traced ε α) : Prop where
  events : ∀ event ∈ m.events, P event
  value : Q m.value

namespace Ensures

variable {P : ε → Prop} {Q Q' : α → Prop} {R : β → Prop} {m : Traced ε α}

theorem mono (h : m.Ensures P Q) (hQ : Q m.value → Q' m.value) : m.Ensures P Q' :=
  ⟨h.events, hQ h.value⟩

theorem imp {P' : ε → Prop} (h : m.Ensures P Q) (hP : ∀ event, P event → P' event) :
    m.Ensures P' Q :=
  ⟨fun event hmem => hP event (h.events event hmem), h.value⟩

theorem pure {a : α} (h : Q a) : (Pure.pure a : Traced ε α).Ensures P Q :=
  ⟨List.forall_mem_nil _, h⟩

theorem bind {f : α → Traced ε β} (hm : m.Ensures P Q) (hf : ∀ a, Q a → (f a).Ensures P R) :
    (m >>= f).Ensures P R :=
  ⟨List.forall_mem_append.mpr ⟨hm.events, (hf _ hm.value).events⟩, (hf _ hm.value).value⟩

theorem event_bind {event : ε} {a : α} {f : α → Traced ε β} (hevent : P event)
    (hf : (f a).Ensures P R) : ((⟨[event], a⟩ : Traced ε α) >>= f).Ensures P R :=
  ⟨List.forall_mem_cons.mpr ⟨hevent, hf.events⟩, hf.value⟩

theorem note_bind {event : ε} {f : PUnit → Traced ε α} (hevent : P event)
    (hf : (f ⟨⟩).Ensures P Q) : (note event >>= f).Ensures P Q :=
  event_bind hevent hf

theorem ite {c : Prop} [Decidable c] {m' : Traced ε α} (hm : c → m.Ensures P Q)
    (hm' : ¬ c → m'.Ensures P Q) : (if c then m else m').Ensures P Q := by
  split
  case isTrue hc => exact hm hc
  case isFalse hc => exact hm' hc

theorem cut (hm : m.Ensures P Q) (k : Nat) {before : ε} (h : P before) : P (m.cut k before) := by
  unfold Traced.cut
  cases hlast : (m.events.take k).getLast? with
  | none => exact h
  | some event => exact hm.events event (List.mem_of_mem_take (List.mem_of_getLast? hlast))

theorem foldlM {ι : Type w} {f : β → ι → Traced ε β} {l : List ι}
    (hf : ∀ b, R b → ∀ a ∈ l, (f b a).Ensures P R) {b : β} (h : R b) :
    (l.foldlM f b).Ensures P R := by
  induction l generalizing b with
  | nil => exact pure h
  | cons a l ih =>
    have hfirst := hf b h a List.mem_cons_self
    have hrest := ih (fun b hb a ha => hf b hb a (List.mem_cons_of_mem _ ha)) hfirst.value
    exact ⟨List.forall_mem_append.mpr ⟨hfirst.events, hrest.events⟩, hrest.value⟩

end Ensures

end Traced

end TurningPoint.Lib
