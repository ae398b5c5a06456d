import Waystation.Gzip.Inflate
/-!
Inflating a stream with bytes behind it, under another cap. Whatever inflates goes on to inflate when
whole bytes follow the stream, and leaves them untouched; under a smaller cap it may run full
instead, and nothing else can happen to it.
-/
namespace Waystation.Gzip

variable {α β γ δ : Type} {small : Prop}

/-- Whenever `x` succeeds, so does `y`, with the value that `f` makes of the value of `x`; but `y` may
run full if its cap is the smaller one. -/
def Follows (small : Prop) (f : α → β) (x : Except InflateFault α) (y : Except InflateFault β) :
    Prop :=
  ∀ a, x = .ok a → y = .ok (f a) ∨ (small ∧ y = .error .full)

namespace Follows

theorem ok (f : α → β) (a : α) : Follows small f (.ok a) (.ok (f a)) := by
  rintro b ⟨⟩
  exact .inl rfl

theorem error (f : α → β) (e : InflateFault) (y : Except InflateFault β) :
    Follows small f (.error e) y := by
  rintro a ⟨⟩

theorem same (x : Except InflateFault α) : Follows small id x x := fun _ h => .inl h

theorem bind {f : α → β} {g : γ → δ} {x : Except InflateFault α} {y : Except InflateFault β}
    {k : α → Except InflateFault γ} {l : β → Except InflateFault δ} (h : Follows small f x y)
    (hk : ∀ a, Follows small g (k a) (l (f a))) : Follows small g (x >>= k) (y >>= l) := by
  intro c hc
  cases x with
  | error e => cases hc
  | ok a =>
    rcases h a rfl with rfl | ⟨hs, rfl⟩
    · exact hk a c hc
    · exact .inr ⟨hs, rfl⟩

theorem ite {f : α → β} {c : Prop} [Decidable c] {x x' : Except InflateFault α}
    {y y' : Except InflateFault β} (h : Follows small f x y) (h' : Follows small f x' y') :
    Follows small f (if c then x else x') (if c then y else y') := by
  by_cases hc : c
  · rwa [if_pos hc, if_pos hc]
  · rwa [if_neg hc, if_neg hc]

/-- What a cap refuses, a smaller one refuses as well; and a smaller one may refuse more. -/
theorem capped {f : α → β} {cap cap' : Nat} (size : Nat) {x : Except InflateFault α}
    {y : Except InflateFault β} (h : Follows (cap' < cap) f x y) :
    Follows (cap' < cap) f (if cap ≤ size then .error .full else x)
      (if cap' ≤ size then .error .full else y) := by
  intro a ha
  by_cases hcap : cap ≤ size
  · rw [if_pos hcap] at ha
    cases ha
  · rw [if_neg hcap] at ha
    by_cases hcap' : cap' ≤ size
    · exact .inr ⟨by omega, if_pos hcap'⟩
    · rw [if_neg hcap']
      exact h a ha

end Follows

theorem takeNat_append {width n : Nat} {bits rest : List Bool}
    (h : takeNat width bits = some (n, rest)) (more : List Bool) :
    takeNat width (bits ++ more) = some (n, rest ++ more) := by
  induction width generalizing bits n with
  | zero =>
    simp only [takeNat, Option.some.injEq, Prod.mk.injEq] at h
    simp [takeNat, h]
  | succ width ih =>
    cases bits with
    | nil => simp [takeNat] at h
    | cons b bits =>
      obtain ⟨⟨m, tail⟩, hm, he⟩ := Option.map_eq_some_iff.1 h
      obtain ⟨rfl, rfl⟩ := Prod.mk.inj he
      simp [takeNat, ih hm]

theorem Tree.decode_append {t : Tree} {n : Nat} {bits rest : List Bool}
    (h : t.decode bits = .symbol n rest) (more : List Bool) :
    t.decode (bits ++ more) = .symbol n (rest ++ more) := by
  induction t generalizing bits with
  | none => simp [decode] at h
  | leaf s =>
    simp only [decode, Decoded.symbol.injEq] at h
    simp [decode, h]
  | node l r ihl ihr =>
    cases bits with
    | nil => simp [decode] at h
    | cons b bits =>
      cases b with
      | false => exact ihl h
      | true => exact ihr h

namespace Inflating

/-- The same state with more bits to read after the others. -/
def before (s : Inflating) (more : List Bool) : Inflating := { s with bits := s.bits ++ more }

/-- What a reader makes of the same bits with more behind them. -/
def readBefore (more : List Bool) (r : α × Inflating) : α × Inflating := (r.1, r.2.before more)

variable {cap cap' : Nat} {more : List Bool}

theorem takeNat_follows (s : Inflating) (width : Nat) :
    Follows small (readBefore more) (s.takeNat width) ((s.before more).takeNat width) := by
  unfold takeNat
  cases h : Gzip.takeNat width s.bits with
  | none => exact .error _ _ _
  | some r =>
    rw [before, takeNat_append h]
    exact .ok _ _

theorem decode_follows (s : Inflating) (t : Tree) :
    Follows small (readBefore more) (s.decode t) ((s.before more).decode t) := by
  unfold decode
  cases h : t.decode s.bits with
  | invalid => exact .error _ _ _
  | short => exact .error _ _ _
  | symbol n bits =>
    rw [before, Tree.decode_append h]
    exact .ok _ _

theorem push_follows (s : Inflating) (b : UInt8) :
    Follows (cap' < cap) (before · more) (s.push cap b) ((s.before more).push cap' b) :=
  .capped s.out.size (.ok _ _)

theorem copy_follows (distance count : Nat) (s : Inflating) :
    Follows (cap' < cap) (before · more) (s.copy cap distance count)
      ((s.before more).copy cap' distance count) := by
  induction count generalizing s with
  | zero => exact .ok _ _
  | succ count ih => exact .bind (push_follows s _) ih

theorem copyStored_follows (count : Nat) (s : Inflating) :
    Follows (cap' < cap) (before · more) (s.copyStored cap count)
      ((s.before more).copyStored cap' count) := by
  induction count generalizing s with
  | zero => exact .ok _ _
  | succ count ih =>
    refine .capped s.out.size (.bind (takeNat_follows s 8) ?_)
    rintro ⟨n, s⟩
    exact .bind (push_follows s _) ih

theorem extended_follows (s : Inflating) (table : Array (Nat × Nat)) (symbol : Nat) :
    Follows small (readBefore more) (s.extended table symbol)
      ((s.before more).extended table symbol) := by
  unfold extended
  cases table[symbol]? with
  | none => exact .error _ _ _
  | some row =>
    refine .bind (takeNat_follows s row.2) ?_
    rintro ⟨n, s⟩
    exact .ok _ _

/-- The number of rounds does not matter as long as it suffices. -/
theorem symbols_follows (literals distances : Tree) {fuel fuel' : Nat} (hf : fuel ≤ fuel')
    (s : Inflating) :
    Follows (cap' < cap) (before · more) (s.symbols cap literals distances fuel)
      ((s.before more).symbols cap' literals distances fuel') := by
  induction fuel generalizing fuel' s with
  | zero => exact .error _ _ _
  | succ fuel ih =>
    cases fuel' with
    | zero => omega
    | succ fuel' =>
      have hf' : fuel ≤ fuel' := by omega
      refine .bind (decode_follows s literals) ?_
      rintro ⟨symbol, s⟩
      refine .ite (.bind (push_follows s _) (ih hf')) (.ite (.ok _ _) ?_)
      refine .bind (extended_follows s lengthTable _) ?_
      rintro ⟨count, s⟩
      refine .bind (decode_follows s distances) ?_
      rintro ⟨symbol, s⟩
      refine .bind (extended_follows s distanceTable _) ?_
      rintro ⟨distance, s⟩
      exact .bind (copy_follows distance count s) (ih hf')

theorem compressed_follows (literals distances : Tree) (s : Inflating) :
    Follows (cap' < cap) (before · more) (s.compressed cap literals distances)
      ((s.before more).compressed cap' literals distances) :=
  symbols_follows literals distances (by simp [before]) s

/-- Whole bytes behind a stream do not move its byte boundaries. -/
theorem aligned_before (s : Inflating) (hmore : 8 ∣ more.length) :
    (s.before more).bits.drop ((s.before more).bits.length % 8)
      = s.bits.drop (s.bits.length % 8) ++ more := by
  obtain ⟨k, hk⟩ := hmore
  have hmod : (s.bits ++ more).length % 8 = s.bits.length % 8 := by
    rw [List.length_append]
    omega
  rw [before, hmod, List.drop_append_of_le_length (Nat.mod_le _ _)]

theorem stored_follows (hmore : 8 ∣ more.length) (s : Inflating) :
    Follows (cap' < cap) (before · more) (s.stored cap) ((s.before more).stored cap') := by
  unfold stored
  have haligned : ({ s.before more with
      bits := (s.before more).bits.drop ((s.before more).bits.length % 8) } : Inflating)
      = ({ s with bits := s.bits.drop (s.bits.length % 8) } : Inflating).before more := by
    rw [aligned_before s hmore]
    rfl
  rw [haligned]
  refine .bind (takeNat_follows _ 16) ?_
  rintro ⟨n, s⟩
  refine .bind (takeNat_follows s 16) ?_
  rintro ⟨complement, s⟩
  exact .ite (copyStored_follows n s) (.error _ _ _)

theorem sentLengths_follows (order : List Nat) (lengths : Array Nat) (s : Inflating) :
    Follows small (readBefore more) (s.sentLengths order lengths)
      ((s.before more).sentLengths order lengths) := by
  induction order generalizing lengths s with
  | nil => exact .ok _ _
  | cons i order ih =>
    refine .bind (takeNat_follows s 3) ?_
    rintro ⟨n, s⟩
    exact ih _ s

theorem wordLengths_follows (tree : Tree) (total fuel : Nat) (lengths : Array Nat)
    (s : Inflating) :
    Follows small (readBefore more) (s.wordLengths tree total fuel lengths)
      ((s.before more).wordLengths tree total fuel lengths) := by
  induction fuel generalizing lengths s with
  | zero => exact .error _ _ _
  | succ fuel ih =>
    refine .ite (.ite (.ok _ _) (.error _ _ _)) (.bind (decode_follows s tree) ?_)
    rintro ⟨symbol, s⟩
    refine .ite (ih _ s) (.ite ?_ (.ite ?_ ?_))
    · cases lengths.back? with
      | none => exact .error _ _ _
      | some last => exact .bind (takeNat_follows s 2) fun r => ih _ r.2
    · exact .bind (takeNat_follows s 3) fun r => ih _ r.2
    · exact .bind (takeNat_follows s 7) fun r => ih _ r.2

theorem transmitted_follows (s : Inflating) :
    Follows (cap' < cap) (before · more) (s.transmitted cap)
      ((s.before more).transmitted cap') := by
  unfold transmitted
  refine .bind (takeNat_follows s 5) ?_
  rintro ⟨n, s⟩
  refine .bind (takeNat_follows s 5) ?_
  rintro ⟨m, s⟩
  refine .bind (takeNat_follows s 4) ?_
  rintro ⟨k, s⟩
  refine .ite (.error _ _ _) (.bind (sentLengths_follows _ _ s) ?_)
  rintro ⟨lengths, s⟩
  refine .ite (.error _ _ _) (.bind (wordLengths_follows _ _ _ _ s) ?_)
  rintro ⟨lengths, s⟩
  refine .bind (f := id) (.same _) fun distances => .bind (f := id) (.same _) fun literals => ?_
  exact compressed_follows literals distances s

theorem blocks_follows (hmore : 8 ∣ more.length) {fuel fuel' : Nat} (hf : fuel ≤ fuel')
    (s : Inflating) :
    Follows (cap' < cap) (before · more) (s.blocks cap fuel) ((s.before more).blocks cap' fuel') := by
  induction fuel generalizing fuel' s with
  | zero => exact .error _ _ _
  | succ fuel ih =>
    cases fuel' with
    | zero => omega
    | succ fuel' =>
      refine .bind (takeNat_follows s 1) ?_
      rintro ⟨final, s⟩
      refine .bind (takeNat_follows s 2) ?_
      rintro ⟨type, s⟩
      have hrest (s : Inflating) : Follows (cap' < cap) (before · more)
          (if final = 1 then .ok s else s.blocks cap fuel)
          (if final = 1 then .ok (s.before more) else (s.before more).blocks cap' fuel') :=
        .ite (.ok _ _) (ih (Nat.le_of_succ_le_succ hf) s)
      match type with
      | 0 => exact .bind (stored_follows hmore s) hrest
      | 1 => exact .bind (compressed_follows _ _ s) hrest
      | 2 => exact .bind (transmitted_follows s) hrest
      | _ + 3 => exact .error _ _ _

end Inflating

/-- A stream that inflates still does with whole bytes behind it, which stay unread; only a smaller
cap may stop it. -/
theorem inflate_append {cap : Nat} {bits more : List Bool} {s : Inflating}
    (h : inflate cap bits = .ok s) (hmore : 8 ∣ more.length) (cap' : Nat) :
    inflate cap' (bits ++ more) = .ok (s.before more)
      ∨ (cap' < cap ∧ inflate cap' (bits ++ more) = .error .full) :=
  Inflating.blocks_follows hmore (by simp) { bits } s h

end Waystation.Gzip
