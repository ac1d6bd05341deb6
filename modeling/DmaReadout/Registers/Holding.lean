import DmaReadout.Buffer
import DmaReadout.Registers.Basic

/-!
# Holding a card and a buffer

A channel may own its card, keep it in a box, or borrow it from an owner that keeps more.
In each case the registers are reached through the holder. The same goes for its buffer.
-/

namespace DmaReadout

/-- A way in which a `σ` holds a `κ`: what is put in is found again, and nothing else
changes. -/
structure Holding (σ κ : Type) where
  get : σ → κ
  set : κ → σ → σ
  get_set : ∀ card holder, get (set card holder) = card
  set_get : ∀ holder, set (get holder) holder = holder
  set_set : ∀ card card' holder, set card (set card' holder) = set card holder

/-- A box around a single value. -/
structure Boxed (κ : Type) where
  content : κ

namespace Holding

variable {σ κ ρ : Type}

def modify (holding : Holding σ κ) (f : κ → κ) (holder : σ) : σ :=
  holding.set (f (holding.get holder)) holder

/-- The card itself. -/
def owned : Holding κ κ where
  get := id
  set card _ := card
  get_set _ _ := rfl
  set_get _ := rfl
  set_set _ _ _ := rfl

def boxed : Holding (Boxed κ) κ where
  get := Boxed.content
  set card _ := ⟨card⟩
  get_set _ _ := rfl
  set_get _ := rfl
  set_set _ _ _ := rfl

/-- A card lent by an owner that keeps a `ρ` beside it. -/
def lent : Holding (κ × ρ) κ where
  get := Prod.fst
  set card owner := (card, owner.2)
  get_set _ _ := rfl
  set_get _ := rfl
  set_set _ _ _ := rfl

end Holding

/-- The registers of a card, reached through its holder. -/
def Registers.through {σ κ : Type} (registers : Registers κ) (holding : Holding σ κ) :
    Registers σ where
  perform access holder :=
    let (reply, card) := registers.perform access (holding.get holder)
    (reply, holding.set card holder)

/-- A buffer, reached through its holder. -/
def Buffer.through {σ : Type} (holding : Holding σ Buffer) (holder : σ) : Buffer where
  size := (holding.get holder).size
  busAddress offset := (holding.get holder).busAddress offset

end DmaReadout
