import Waystation.Gzip.Inflate
/-!
The format of deflate streams as rules. They know neither a cap on the output nor a bound on the number
of rounds: a block is one of three kinds, its symbols are literals and copies up to the end, and each
rule reads on and adds to the output.
-/
namespace Waystation.Gzip

theorem exists_of_bind {ε α β : Type} {x : Except ε α} {f : α → Except ε β} {b : β}
    (h : (x >>= f) = .ok b) : ∃ a, x = .ok a ∧ f a = .ok b := by
  cases x with
  | error e => cases h
  | ok a => exact ⟨a, rfl, h⟩

theorem bind_of_ok {ε α β : Type} {x : Except ε α} {a : α} (h : x = .ok a)
    (f : α → Except ε β) : (x >>= f) = f a := by
  rw [h]
  rfl

theorem ite_bind {ε α β : Type} {c : Prop} [Decidable c] (x y : Except ε α)
    (f : α → Except ε β) :
    ((if c then x else y) >>= f) = if c then x >>= f else y >>= f :=
  apply_ite (· >>= f) c x y

/-! Words of at least one bit. -/

namespace Tree

/-- No symbol has the empty word. -/
def Rooted (t : Tree) : Prop := ∀ s, t ≠ leaf s

theorem length_of_decode {t : Tree} {n : Nat} {bits rest : List Bool}
    (h : t.decode bits = .symbol n rest) : rest.length ≤ bits.length := by
  induction t generalizing bits with
  | none => cases h
  | leaf s =>
    obtain ⟨-, rfl⟩ := Decoded.symbol.inj h
    exact Nat.le_refl _
  | node l r ihl ihr =>
    cases bits with
    | nil => cases h
    | cons b bits =>
      cases b with
      | false => exact Nat.le_succ_of_le (ihl h)
      | true => exact Nat.le_succ_of_le (ihr h)

theorem Rooted.length_of_decode {t : Tree} (ht : t.Rooted) {n : Nat} {bits rest : List Bool}
    (h : t.decode bits = .symbol n rest) : rest.length < bits.length := by
  cases t with
  | none => cases h
  | leaf s => exact absurd rfl (ht s)
  | node l r =>
    cases bits with
    | nil => cases h
    | cons b bits =>
      cases b with
      | false => exact Nat.lt_succ_of_le (Tree.length_of_decode (t := l) h)
      | true => exact Nat.lt_succ_of_le (Tree.length_of_decode (t := r) h)

theorem rooted_insert (t : Tree) {path : List Bool} (hpath : path ≠ []) (s : Nat) :
    (t.insert path s).Rooted := by
  intro s'
  cases path with
  | nil => exact absurd rfl hpath
  | cons b path => cases t <;> cases b <;> exact nofun

theorem rooted_placeSymbols (lengths : List Nat) (s : Nat) (next : Array Nat) {t : Tree}
    (ht : t.Rooted) : (placeSymbols lengths s next t).Rooted := by
  induction lengths generalizing s next t with
  | nil => exact ht
  | cons n lengths ih =>
    cases n with
    | zero => exact ih _ _ ht
    | succ n =>
      refine ih _ _ (t.rooted_insert (fun hnil => ?_) s)
      have hlength := congrArg List.length hnil
      simp [wordBits, length_bitsOfNat] at hlength

theorem rooted_canonicalTree (lengths : List Nat) : (canonicalTree lengths).Rooted :=
  rooted_placeSymbols lengths 0 _ nofun

end Tree

theorem length_of_takeNat {width n : Nat} {bits rest : List Bool}
    (h : takeNat width bits = some (n, rest)) : rest.length + width = bits.length := by
  induction width generalizing bits n with
  | zero =>
    obtain ⟨-, rfl⟩ := Prod.mk.inj (Option.some.inj h)
    rfl
  | succ width ih =>
    cases bits with
    | nil => cases h
    | cons b bits =>
      obtain ⟨⟨m, tail⟩, hm, he⟩ := Option.map_eq_some_iff.1 h
      obtain ⟨-, rfl⟩ := Prod.mk.inj he
      have hlength := ih hm
      rw [List.length_cons]
      omega

namespace Inflating

variable {s s' s₁ s₂ t : Inflating} {cap n width : Nat}

/-! Readers take bits and put nothing out. -/

/-- One state comes of the other by reading. -/
structure Reads (s s' : Inflating) : Prop where
  out : s'.out = s.out
  bits : s'.bits.length ≤ s.bits.length

theorem Reads.refl (s : Inflating) : s.Reads s := ⟨rfl, Nat.le_refl _⟩

theorem Reads.trans (h : s.Reads s₁) (h' : s₁.Reads s₂) : s.Reads s₂ :=
  ⟨h'.out.trans h.out, Nat.le_trans h'.bits h.bits⟩

theorem takeNat_spec (h : s.takeNat width = .ok (n, s')) :
    s'.out = s.out ∧ s'.bits.length + width = s.bits.length := by
  unfold takeNat at h
  split at h
  next m bits htake =>
    obtain ⟨-, rfl⟩ := Prod.mk.inj (Except.ok.inj h)
    exact ⟨rfl, length_of_takeNat htake⟩
  next => cases h

theorem reads_takeNat (h : s.takeNat width = .ok (n, s')) : s.Reads s' := by
  obtain ⟨hout, hbits⟩ := takeNat_spec h
  exact ⟨hout, by omega⟩

theorem decode_spec {code : Tree} (h : s.decode code = .ok (n, s')) :
    s'.out = s.out ∧ code.decode s.bits = .symbol n s'.bits := by
  unfold decode at h
  split at h
  next m bits hdecode =>
    obtain ⟨rfl, rfl⟩ := Prod.mk.inj (Except.ok.inj h)
    exact ⟨rfl, hdecode⟩
  next => cases h
  next => cases h

theorem reads_decode {code : Tree} (h : s.decode code = .ok (n, s')) : s.Reads s' := by
  obtain ⟨hout, hdecode⟩ := decode_spec h
  exact ⟨hout, Tree.length_of_decode hdecode⟩

theorem reads_extended {table : Array (Nat × Nat)} {symbol : Nat}
    (h : s.extended table symbol = .ok (n, s')) : s.Reads s' := by
  unfold extended at h
  split at h
  next => cases h
  next row =>
    obtain ⟨⟨m, s₁⟩, htake, h⟩ := exists_of_bind h
    obtain ⟨-, rfl⟩ := Prod.mk.inj (Except.ok.inj h)
    exact reads_takeNat htake

theorem reads_sentLengths {order : List Nat} {lengths lengths' : Array Nat}
    (h : s.sentLengths order lengths = .ok (lengths', s')) : s.Reads s' := by
  induction order generalizing lengths s with
  | nil =>
    obtain ⟨-, rfl⟩ := Prod.mk.inj (Except.ok.inj h)
    exact .refl s
  | cons i order ih =>
    obtain ⟨⟨m, s₁⟩, htake, h⟩ := exists_of_bind h
    exact (reads_takeNat htake).trans (ih h)

theorem reads_wordLengths {code : Tree} {total fuel : Nat} {lengths lengths' : Array Nat}
    (h : s.wordLengths code total fuel lengths = .ok (lengths', s')) : s.Reads s' := by
  induction fuel generalizing lengths s with
  | zero => cases h
  | succ fuel ih =>
    rw [wordLengths] at h
    split at h
    · split at h
      · obtain ⟨-, rfl⟩ := Prod.mk.inj (Except.ok.inj h)
        exact .refl s
      · cases h
    · obtain ⟨⟨symbol, s₁⟩, hdecode, h⟩ := exists_of_bind h
      refine (reads_decode hdecode).trans ?_
      simp only at h
      split at h
      · exact ih h
      · split at h
        · split at h
          · cases h
          · obtain ⟨⟨m, s₂⟩, htake, h⟩ := exists_of_bind h
            exact (reads_takeNat htake).trans (ih h)
        · split at h
          · obtain ⟨⟨m, s₂⟩, htake, h⟩ := exists_of_bind h
            exact (reads_takeNat htake).trans (ih h)
          · obtain ⟨⟨m, s₂⟩, htake, h⟩ := exists_of_bind h
            exact (reads_takeNat htake).trans (ih h)

/-- The codes of a block that sends its own: that of the literals and lengths, and that of the
distances. -/
def sentCodes (s : Inflating) : Except InflateFault ((Tree × Tree) × Inflating) := do
  let (n, s) ← s.takeNat 5
  let (m, s) ← s.takeNat 5
  let (k, s) ← s.takeNat 4
  let literalCount := n + 257
  let distanceCount := m + 1
  if 286 < literalCount ∨ 30 < distanceCount then .error .corrupt
  let (lengths, s) ← s.sentLengths (codeOrder.take (k + 4)) (Array.replicate 19 0)
  if !isComplete lengths.toList then .error .corrupt
  let total := literalCount + distanceCount
  let (lengths, s) ← s.wordLengths (canonicalTree lengths.toList) total (total + 1) #[]
  let distances ← usableTree (lengths.toList.drop literalCount)
  let literals ← usableTree (lengths.toList.take literalCount)
  return ((literals, distances), s)

theorem transmitted_eq (cap : Nat) (s : Inflating) :
    s.transmitted cap = s.sentCodes >>= fun r => r.2.compressed cap r.1.1 r.1.2 := by
  simp only [transmitted, sentCodes, bind_assoc, ite_bind, pure_bind]

theorem usableTree_eq {lengths : List Nat} {code : Tree} (h : usableTree lengths = .ok code) :
    code = canonicalTree lengths := by
  unfold usableTree at h
  split at h
  · exact (Except.ok.inj h).symm
  · cases h

theorem sentCodes_spec {literals distances : Tree}
    (h : s.sentCodes = .ok ((literals, distances), s')) : s.Reads s' ∧ literals.Rooted := by
  obtain ⟨⟨n, s₁⟩, hn, h⟩ := exists_of_bind h
  obtain ⟨⟨m, s₂⟩, hm, h⟩ := exists_of_bind h
  obtain ⟨⟨k, s₃⟩, hk, h⟩ := exists_of_bind h
  simp only at h
  split at h
  · cases h
  · obtain ⟨⟨lengths, s₄⟩, hsent, h⟩ := exists_of_bind h
    simp only at h
    split at h
    · cases h
    · obtain ⟨⟨words, s₅⟩, hwords, h⟩ := exists_of_bind h
      obtain ⟨distances', -, h⟩ := exists_of_bind h
      obtain ⟨literals', hliterals, h⟩ := exists_of_bind h
      obtain ⟨hcodes, rfl⟩ := Prod.mk.inj (Except.ok.inj h)
      obtain ⟨rfl, -⟩ := Prod.mk.inj hcodes
      refine ⟨?_, usableTree_eq hliterals ▸ Tree.rooted_canonicalTree _⟩
      exact (reads_takeNat hn).trans ((reads_takeNat hm).trans ((reads_takeNat hk).trans
        ((reads_sentLengths hsent).trans (reads_wordLengths hwords))))

/-! The rules. -/

/-- One byte more of output. -/
def put (s : Inflating) (b : UInt8) : Inflating := { s with out := s.out.push b }

/-- The byte `distance` back; before the start of the output there are zeros. -/
def back (s : Inflating) (distance : Nat) : UInt8 :=
  if s.out.size < distance then 0 else s.out.getD (s.out.size - distance) 0

/-- The output with the byte `distance` back repeated `count` times over. -/
def repeated (distance : Nat) : (count : Nat) → Inflating → Inflating
  | 0, s => s
  | count + 1, s => repeated distance count (s.put (s.back distance))

/-- So many bytes stand as they are. -/
inductive Verbatim : (count : Nat) → Inflating → Inflating → Prop
  | done (s : Inflating) : Verbatim 0 s s
  | byte {count n : Nat} {s s' t : Inflating} (hbyte : s.takeNat 8 = .ok (n, s'))
      (hrest : Verbatim count (s'.put (UInt8.ofNat n)) t) : Verbatim (count + 1) s t

/-- The literals and copies of a block, up to its end. -/
inductive Symbols (literals distances : Tree) : Inflating → Inflating → Prop
  | done {s t : Inflating} (hend : s.decode literals = .ok (endOfBlock, t)) :
      Symbols literals distances s t
  | literal {n : Nat} {s s' t : Inflating} (hsymbol : s.decode literals = .ok (n, s'))
      (hn : n < endOfBlock) (hrest : Symbols literals distances (s'.put (UInt8.ofNat n)) t) :
      Symbols literals distances s t
  | copy {n m count distance : Nat} {s s₁ s₂ s₃ s₄ t : Inflating}
      (hsymbol : s.decode literals = .ok (n, s₁)) (hn : endOfBlock < n)
      (hcount : s₁.extended lengthTable (n - 257) = .ok (count, s₂))
      (hfar : s₂.decode distances = .ok (m, s₃))
      (hdistance : s₃.extended distanceTable m = .ok (distance, s₄))
      (hrest : Symbols literals distances (s₄.repeated distance count) t) :
      Symbols literals distances s t

/-- The rest of the byte that the next bit stands in is passed over. -/
def aligned (s : Inflating) : Inflating := { s with bits := s.bits.drop (s.bits.length % 8) }

/-- A block of each type: stored bytes behind their number and its complement, symbols of the fixed
codes, or symbols of codes that the block sends. -/
inductive Block : (type : Nat) → Inflating → Inflating → Prop
  | stored {n complement : Nat} {s s₁ s₂ t : Inflating} (hn : s.aligned.takeNat 16 = .ok (n, s₁))
      (hcomplement : s₁.takeNat 16 = .ok (complement, s₂)) (hsum : n + complement = 0xFFFF)
      (hbytes : Verbatim n s₂ t) : Block 0 s t
  | fixed {s t : Inflating} (hsymbols : Symbols fixedLiterals fixedDistances s t) : Block 1 s t
  | transmitted {literals distances : Tree} {s s' t : Inflating}
      (hcodes : s.sentCodes = .ok ((literals, distances), s'))
      (hsymbols : Symbols literals distances s' t) : Block 2 s t

/-- Blocks up to the one marked as the last. -/
inductive Blocks : Inflating → Inflating → Prop
  | last {type : Nat} {s s₁ s₂ t : Inflating} (hmark : s.takeNat 1 = .ok (1, s₁))
      (htype : s₁.takeNat 2 = .ok (type, s₂)) (hblock : Block type s₂ t) : Blocks s t
  | more {mark type : Nat} {s s₁ s₂ s₃ t : Inflating} (hmark : s.takeNat 1 = .ok (mark, s₁))
      (hmore : mark ≠ 1) (htype : s₁.takeNat 2 = .ok (type, s₂)) (hblock : Block type s₂ s₃)
      (hrest : Blocks s₃ t) : Blocks s t

/-! The rules only go on. -/

/-- One state comes of the other by reading and putting out. -/
structure Later (s t : Inflating) : Prop where
  out : s.out.size ≤ t.out.size
  bits : t.bits.length ≤ s.bits.length

theorem Later.refl (s : Inflating) : s.Later s := ⟨Nat.le_refl _, Nat.le_refl _⟩

theorem Later.trans (h : s.Later s₁) (h' : s₁.Later s₂) : s.Later s₂ :=
  ⟨Nat.le_trans h.out h'.out, Nat.le_trans h'.bits h.bits⟩

theorem Reads.later (h : s.Reads s') : s.Later s' :=
  ⟨Nat.le_of_eq (congrArg Array.size h.out.symm), h.bits⟩

theorem later_put (s : Inflating) (b : UInt8) : s.Later (s.put b) :=
  ⟨by simp [put], Nat.le_refl _⟩

theorem later_repeated (distance count : Nat) (s : Inflating) :
    s.Later (s.repeated distance count) := by
  induction count generalizing s with
  | zero => exact .refl s
  | succ count ih => exact (s.later_put _).trans (ih _)

theorem reads_aligned (s : Inflating) : s.Reads s.aligned :=
  ⟨rfl, by simp [aligned]⟩

theorem Verbatim.later {count : Nat} (h : Verbatim count s t) : s.Later t := by
  induction h with
  | done s => exact .refl s
  | byte hbyte _ ih => exact (reads_takeNat hbyte).later.trans ((later_put _ _).trans ih)

theorem Symbols.later {literals distances : Tree} (h : Symbols literals distances s t) :
    s.Later t := by
  induction h with
  | done hend => exact (reads_decode hend).later
  | literal hsymbol _ _ ih => exact (reads_decode hsymbol).later.trans ((later_put _ _).trans ih)
  | copy hsymbol _ hcount hfar hdistance _ ih =>
    have hreads := (reads_decode hsymbol).trans ((reads_extended hcount).trans
      ((reads_decode hfar).trans (reads_extended hdistance)))
    exact hreads.later.trans ((later_repeated _ _ _).trans ih)

theorem Block.later {type : Nat} (h : Block type s t) : s.Later t := by
  cases h with
  | stored hn hcomplement _ hbytes =>
    have hreads := s.reads_aligned.trans ((reads_takeNat hn).trans (reads_takeNat hcomplement))
    exact hreads.later.trans hbytes.later
  | fixed hsymbols => exact hsymbols.later
  | transmitted hcodes hsymbols => exact (sentCodes_spec hcodes).1.later.trans hsymbols.later

theorem Blocks.later (h : Blocks s t) : s.Later t := by
  induction h with
  | last hmark htype hblock =>
    exact ((reads_takeNat hmark).trans (reads_takeNat htype)).later.trans hblock.later
  | more hmark _ htype hblock _ ih =>
    exact ((reads_takeNat hmark).trans (reads_takeNat htype)).later.trans (hblock.later.trans ih)

end Inflating
end Waystation.Gzip
