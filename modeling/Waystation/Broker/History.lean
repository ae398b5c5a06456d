import Waystation.Bytes
/-!
What a broker remembers of the blobs that went through it: the newest published blobs and the newest
delivery records, up to a limit. A delivery keeps its number when older records are evicted, so that
an acknowledgement finds its own record or none.
-/
namespace Waystation

/-- A blob published on a subject. -/
structure Message where
  subject : String
  payload : Bytes
  deriving DecidableEq, Repr

/-- A blob handed to a consumer group, and how often that was acknowledged. -/
structure DeliveryRecord where
  subject : String
  group : String
  acks : Nat := 0
  deriving DecidableEq, Repr

/-- The last `n` members of a list. -/
def lastOf {α : Type} (n : Nat) (xs : List α) : List α := xs.drop (xs.length - n)

theorem length_lastOf {α : Type} (n : Nat) (xs : List α) :
    (lastOf n xs).length = min n xs.length := by
  simp only [lastOf, List.length_drop]
  omega

theorem lastOf_suffix {α : Type} (n : Nat) (xs : List α) : lastOf n xs <:+ xs :=
  List.drop_suffix _ _

/-- The newest blobs and delivery records, and how many records are gone. -/
structure History where
  limit : Nat
  published : List Message := []
  deliveries : List DeliveryRecord := []
  /-- How many delivery records have been evicted. -/
  evicted : Nat := 0
  deriving DecidableEq, Repr

namespace History

/-- How many blobs and records a broker keeps unless told otherwise. -/
def defaultLimit : Nat := 1024

/-- Evicts the oldest blobs and records above the limit. -/
def trim (h : History) : History :=
  { h with
    published := lastOf h.limit h.published
    deliveries := lastOf h.limit h.deliveries
    evicted := h.evicted + (h.deliveries.length - h.limit) }

/-- Changes the limit and evicts what is above it. -/
def setLimit (h : History) (limit : Nat) : History := { h with limit }.trim

/-- Remembers a blob. -/
def recordPublish (h : History) (m : Message) : History :=
  { h with published := h.published ++ [m] }.trim

/-- The number of the next delivery. -/
def nextDelivery (h : History) : Nat := h.evicted + h.deliveries.length

/-- Remembers a delivery. -/
def recordDelivery (h : History) (r : DeliveryRecord) : History :=
  { h with deliveries := h.deliveries ++ [r] }.trim

/-- Counts an acknowledgement of a delivery. One whose record is evicted counts nowhere; one that
never happened is refused. -/
def acknowledge? (h : History) (delivery : Nat) : Option History :=
  if delivery < h.evicted then some h
  else match h.deliveries[delivery - h.evicted]? with
    | some r =>
      let counted := { r with acks := r.acks + 1 }
      some { h with deliveries := h.deliveries.set (delivery - h.evicted) counted }
    | none => none

theorem nextDelivery_trim (h : History) : h.trim.nextDelivery = h.nextDelivery := by
  simp only [nextDelivery, trim, length_lastOf]
  omega

theorem nextDelivery_recordDelivery (h : History) (r : DeliveryRecord) :
    (h.recordDelivery r).nextDelivery = h.nextDelivery + 1 := by
  simp only [recordDelivery, nextDelivery_trim]
  simp [nextDelivery, Nat.add_assoc]

end History
end Waystation
