import Waystation.Proofs.Gzip.RoundTrip
import Waystation.Proofs.Gzip.Rules
/-!
Inflating by the rules. What inflates under a cap is what the rules give, as long as that is within the
cap; so the members that a reader accepts are the same under all limits but for their size.
-/
namespace Waystation.Gzip
namespace Inflating

variable {s t : Inflating} {cap : Nat}

/-! What inflates does so by the rules. -/

theorem push_eq_ok {b : UInt8} (h : s.push cap b = .ok t) : s.out.size < cap ∧ t = s.put b := by
  unfold push at h
  split at h
  · cases h
  next hcap => exact ⟨by omega, (Except.ok.inj h).symm⟩

theorem size_put (s : Inflating) (b : UInt8) : (s.put b).out.size = s.out.size + 1 := by
  simp [put]

theorem copy_sound {distance count : Nat} (hs : s.out.size ≤ cap)
    (h : s.copy cap distance count = .ok t) :
    t = s.repeated distance count ∧ t.out.size ≤ cap := by
  induction count generalizing s with
  | zero =>
    obtain rfl := Except.ok.inj h
    exact ⟨rfl, hs⟩
  | succ count ih =>
    obtain ⟨s', hpush, h⟩ := exists_of_bind h
    obtain ⟨hcap, rfl⟩ := push_eq_ok hpush
    exact ih (by rw [size_put]; omega) h

theorem copyStored_sound {count : Nat} (hs : s.out.size ≤ cap)
    (h : s.copyStored cap count = .ok t) : Verbatim count s t ∧ t.out.size ≤ cap := by
  induction count generalizing s with
  | zero =>
    obtain rfl := Except.ok.inj h
    exact ⟨.done s, hs⟩
  | succ count ih =>
    rw [copyStored] at h
    split at h
    · cases h
    · obtain ⟨⟨n, s₁⟩, hbyte, h⟩ := exists_of_bind h
      obtain ⟨s₂, hpush, h⟩ := exists_of_bind h
      obtain ⟨hcap, rfl⟩ := push_eq_ok hpush
      obtain ⟨hrest, hsize⟩ := ih (by rw [size_put]; omega) h
      exact ⟨.byte hbyte hrest, hsize⟩

theorem symbols_sound {literals distances : Tree} {fuel : Nat} (hs : s.out.size ≤ cap)
    (h : s.symbols cap literals distances fuel = .ok t) :
    Symbols literals distances s t ∧ t.out.size ≤ cap := by
  induction fuel generalizing s with
  | zero => cases h
  | succ fuel ih =>
    obtain ⟨⟨n, s₁⟩, hsymbol, h⟩ := exists_of_bind h
    have hs₁ : s₁.out.size ≤ cap := by rwa [(reads_decode hsymbol).out]
    simp only at h
    split at h
    next hn =>
      obtain ⟨s₂, hpush, h⟩ := exists_of_bind h
      obtain ⟨hcap, rfl⟩ := push_eq_ok hpush
      obtain ⟨hrest, hsize⟩ := ih (by rw [size_put]; omega) h
      exact ⟨.literal hsymbol hn hrest, hsize⟩
    next hn =>
      split at h
      next hend =>
        obtain rfl := Except.ok.inj h
        exact ⟨.done (hend ▸ hsymbol), hs₁⟩
      next hend =>
        obtain ⟨⟨count, s₂⟩, hcount, h⟩ := exists_of_bind h
        obtain ⟨⟨m, s₃⟩, hfar, h⟩ := exists_of_bind h
        obtain ⟨⟨distance, s₄⟩, hdistance, h⟩ := exists_of_bind h
        obtain ⟨s₅, hcopy, h⟩ := exists_of_bind h
        have hreads := (reads_extended hcount).trans
          ((reads_decode hfar).trans (reads_extended hdistance))
        have hs₄ : s₄.out.size ≤ cap := by rwa [hreads.out]
        obtain ⟨rfl, hs₅⟩ := copy_sound hs₄ hcopy
        obtain ⟨hrest, hsize⟩ := ih hs₅ h
        exact ⟨.copy hsymbol (by omega) hcount hfar hdistance hrest, hsize⟩

theorem compressed_sound {literals distances : Tree} (hs : s.out.size ≤ cap)
    (h : s.compressed cap literals distances = .ok t) :
    Symbols literals distances s t ∧ t.out.size ≤ cap :=
  symbols_sound hs h

theorem stored_sound (hs : s.out.size ≤ cap) (h : s.stored cap = .ok t) :
    Block 0 s t ∧ t.out.size ≤ cap := by
  obtain ⟨⟨n, s₁⟩, hn, h⟩ := exists_of_bind h
  obtain ⟨⟨complement, s₂⟩, hcomplement, h⟩ := exists_of_bind h
  simp only at h
  split at h
  next hsum =>
    have hreads := s.reads_aligned.trans ((reads_takeNat hn).trans (reads_takeNat hcomplement))
    obtain ⟨hbytes, hsize⟩ := copyStored_sound (by rwa [hreads.out]) h
    exact ⟨.stored hn hcomplement hsum hbytes, hsize⟩
  next => cases h

theorem transmitted_sound (hs : s.out.size ≤ cap) (h : s.transmitted cap = .ok t) :
    Block 2 s t ∧ t.out.size ≤ cap := by
  rw [transmitted_eq] at h
  obtain ⟨⟨⟨literals, distances⟩, s₁⟩, hcodes, h⟩ := exists_of_bind h
  obtain ⟨hsymbols, hsize⟩ := compressed_sound (by rwa [(sentCodes_spec hcodes).1.out]) h
  exact ⟨.transmitted hcodes hsymbols, hsize⟩

/-- A block of some type. -/
def block (cap : Nat) : (type : Nat) → Inflating → InflateStep
  | 0, s => s.stored cap
  | 1, s => s.compressed cap fixedLiterals fixedDistances
  | 2, s => s.transmitted cap
  | _, _ => .error .corrupt

theorem blocks_succ (cap fuel : Nat) (s : Inflating) :
    s.blocks cap (fuel + 1) = s.takeNat 1 >>= fun mark => mark.2.takeNat 2 >>= fun type =>
      type.2.block cap type.1 >>= fun s =>
        if mark.1 = 1 then .ok s else s.blocks cap fuel := by
  rw [blocks]
  refine bind_congr fun mark => bind_congr fun type => ?_
  obtain ⟨number, s⟩ := type
  rcases number with _ | _ | _ | _
  · rfl
  · rfl
  · rfl
  · rfl

theorem block_sound {type : Nat} (hs : s.out.size ≤ cap) (h : s.block cap type = .ok t) :
    Block type s t ∧ t.out.size ≤ cap := by
  unfold block at h
  split at h
  · exact stored_sound hs h
  · exact (compressed_sound hs h).imp_left .fixed
  · exact transmitted_sound hs h
  · cases h

theorem blocks_sound {fuel : Nat} (hs : s.out.size ≤ cap) (h : s.blocks cap fuel = .ok t) :
    Blocks s t ∧ t.out.size ≤ cap := by
  induction fuel generalizing s with
  | zero => cases h
  | succ fuel ih =>
    rw [blocks_succ] at h
    obtain ⟨⟨mark, s₁⟩, hmark, h⟩ := exists_of_bind h
    obtain ⟨⟨type, s₂⟩, htype, h⟩ := exists_of_bind h
    obtain ⟨s₃, hblock, h⟩ := exists_of_bind h
    have hreads := (reads_takeNat hmark).trans (reads_takeNat htype)
    obtain ⟨hrules, hsize⟩ := block_sound (by rwa [hreads.out]) hblock
    split at h
    next hlast =>
      obtain rfl := Except.ok.inj h
      exact ⟨.last (hlast ▸ hmark) htype hrules, hsize⟩
    next hmore =>
      obtain ⟨hrest, hsize⟩ := ih hsize h
      exact ⟨.more hmark hmore htype hrules hrest, hsize⟩

/-! What the rules give is inflated. -/

theorem copy_complete {distance count : Nat} (h : (s.repeated distance count).out.size ≤ cap) :
    s.copy cap distance count = .ok (s.repeated distance count) := by
  induction count generalizing s with
  | zero => rfl
  | succ count ih =>
    have hlater := (later_repeated distance count (s.put (s.back distance))).out
    rw [size_put] at hlater
    have hlt : s.out.size < cap := Nat.lt_of_lt_of_le hlater h
    exact (bind_of_ok (push_of_lt hlt (s.back distance)) _).trans (ih h)

theorem Verbatim.complete {count : Nat} (h : Verbatim count s t) (hsize : t.out.size ≤ cap) :
    s.copyStored cap count = .ok t := by
  induction h with
  | done s => rfl
  | @byte count n s s' t hbyte hrest ih =>
    have hout := (reads_takeNat hbyte).out
    have hlater := hrest.later.out
    rw [size_put] at hlater
    have hlt : s'.out.size < cap := Nat.lt_of_lt_of_le hlater hsize
    rw [copyStored, if_neg (by rw [← hout]; omega), bind_of_ok hbyte]
    exact (bind_of_ok (push_of_lt hlt (UInt8.ofNat n)) _).trans (ih hsize)

/-- Every symbol takes a bit, so that there are rounds enough. -/
theorem Symbols.complete {literals distances : Tree} (hrooted : literals.Rooted)
    (h : Symbols literals distances s t) (hsize : t.out.size ≤ cap) {fuel : Nat}
    (hfuel : s.bits.length < fuel) : s.symbols cap literals distances fuel = .ok t := by
  have htakes : ∀ {s s' : Inflating} {n : Nat}, s.decode literals = .ok (n, s') →
      s'.bits.length < s.bits.length :=
    fun hsymbol => hrooted.length_of_decode (decode_spec hsymbol).2
  induction h generalizing fuel with
  | done hend =>
    cases fuel with
    | zero => omega
    | succ fuel =>
      rw [symbols, bind_of_ok hend]
      rfl
  | @literal n s s' t hsymbol hn hrest ih =>
    cases fuel with
    | zero => omega
    | succ fuel =>
      have hlater := hrest.later.out
      rw [size_put] at hlater
      have hlt : s'.out.size < cap := Nat.lt_of_lt_of_le hlater hsize
      have hbits := htakes hsymbol
      rw [symbols, bind_of_ok hsymbol]
      simp only [if_pos hn]
      exact (bind_of_ok (push_of_lt hlt (UInt8.ofNat n)) _).trans
        (ih hsize (Nat.lt_of_lt_of_le hbits (Nat.le_of_lt_succ hfuel)))
  | @copy n m count distance s s₁ s₂ s₃ s₄ t hsymbol hn hcount hfar hdistance hrest ih =>
    cases fuel with
    | zero => omega
    | succ fuel =>
      have hcap := Nat.le_trans hrest.later.out hsize
      have hreads := (reads_extended hcount).trans
        ((reads_decode hfar).trans (reads_extended hdistance))
      have hbits := htakes hsymbol
      have hrepeated := (later_repeated distance count s₄).bits
      rw [symbols, bind_of_ok hsymbol]
      simp only [if_neg (Nat.lt_asymm hn), if_neg (Nat.ne_of_gt hn)]
      rw [bind_of_ok hcount, bind_of_ok hfar, bind_of_ok hdistance, bind_of_ok (copy_complete hcap)]
      exact ih hsize (by have := hreads.bits; omega)

theorem Block.complete {type : Nat} (h : Block type s t) (hsize : t.out.size ≤ cap) :
    s.block cap type = .ok t := by
  cases h with
  | stored hn hcomplement hsum hbytes =>
    refine (bind_of_ok hn _).trans ((bind_of_ok hcomplement _).trans ?_)
    exact (if_pos hsum).trans (hbytes.complete hsize)
  | fixed hsymbols =>
    exact hsymbols.complete (Tree.rooted_canonicalTree _) hsize (Nat.lt_succ_self _)
  | transmitted hcodes hsymbols =>
    refine (transmitted_eq cap s).trans ((bind_of_ok hcodes _).trans ?_)
    exact hsymbols.complete (sentCodes_spec hcodes).2 hsize (Nat.lt_succ_self _)

/-- Every block takes a bit, too. -/
theorem Blocks.complete (h : Blocks s t) (hsize : t.out.size ≤ cap) {fuel : Nat}
    (hfuel : s.bits.length < fuel) : s.blocks cap fuel = .ok t := by
  induction h generalizing fuel with
  | last hmark htype hblock =>
    cases fuel with
    | zero => omega
    | succ fuel =>
      rw [blocks_succ, bind_of_ok hmark, bind_of_ok htype, bind_of_ok (hblock.complete hsize)]
      exact if_pos rfl
  | more hmark hmore htype hblock hrest ih =>
    cases fuel with
    | zero => omega
    | succ fuel =>
      have hcap := Nat.le_trans hrest.later.out hsize
      have hfirst := (takeNat_spec hmark).2
      have hbits := (reads_takeNat htype).later.trans hblock.later
      rw [blocks_succ, bind_of_ok hmark, bind_of_ok htype, bind_of_ok (hblock.complete hcap)]
      exact (if_neg hmore).trans (ih hsize (by have := hbits.bits; omega))

end Inflating

/-- A stream inflates under a cap to what the rules give, if that is within the cap. -/
theorem inflate_eq_ok_iff {cap : Nat} {bits : List Bool} {s : Inflating} :
    inflate cap bits = .ok s ↔ Inflating.Blocks { bits } s ∧ s.out.size ≤ cap :=
  ⟨fun h => Inflating.blocks_sound (Nat.zero_le _) h,
    fun h => h.1.complete h.2 (Nat.lt_succ_self _)⟩

/-! Members. -/

/-- A blob begins with a member that holds `out`: a header, a stream of that output and a trailer that
fits it. -/
def Member (blob out : Bytes) : Prop :=
  ∃ body s, skipHeader blob = .ok body ∧ Inflating.Blocks { bits := bitsOfBytes body } s
    ∧ s.out.toList = out ∧ trailer out <+: alignedBytes s.bits

theorem takeBytes_eq_ok {n : Nat} {bs front rest : Bytes} (h : takeBytes n bs = .ok (front, rest)) :
    bs = front ++ rest := by
  rw [takeBytes] at h
  split at h
  · cases h
  · obtain ⟨rfl, rfl⟩ := Prod.mk.inj (Except.ok.inj h)
    exact (List.take_append_drop n bs).symm

theorem takeBytes_append (front rest : Bytes) :
    takeBytes front.length (front ++ rest) = .ok (front, rest) := by
  rw [takeBytes, if_neg (by rw [List.length_append]; omega), List.take_left, List.drop_left]

theorem checkTrailer_eq_ok_iff {out bs : Bytes} :
    checkTrailer out bs = .ok () ↔ trailer out <+: bs := by
  constructor
  · intro h
    obtain ⟨⟨front, rest⟩, htake, h⟩ := exists_of_bind h
    simp only at h
    split at h
    next hfront =>
      rw [takeBytes_eq_ok htake, hfront]
      exact List.prefix_append (trailer out) rest
    next => cases h
  · rintro ⟨rest, rfl⟩
    have htake : takeBytes 8 (trailer out ++ rest) = .ok (trailer out, rest) :=
      takeBytes_append (trailer out) rest
    exact (bind_of_ok htake _).trans (if_pos rfl)

/-- A header begins with the magic bytes. -/
theorem magic_of_skipHeader {blob body : Bytes} (h : skipHeader blob = .ok body) :
    magic <+: blob := by
  obtain ⟨⟨fixed, rest⟩, htake, h⟩ := exists_of_bind h
  by_cases hmagic : fixed.take 2 = magic
  · rw [takeBytes_eq_ok htake, ← hmagic]
    exact (List.take_prefix 2 fixed).trans (List.prefix_append fixed rest)
  · have hfault := (if_pos (c := fixed.take 2 ≠ magic) hmagic).symm.trans h
    cases hfault

/-- Under a limit a reader accepts the members whose output is within the limit. -/
theorem decompress?_eq_some_iff {limit : Nat} {blob out : Bytes} :
    decompress? limit blob = .ok (some out) ↔ Member blob out ∧ out.length ≤ limit := by
  rw [decompress?]
  constructor
  · intro h
    obtain ⟨body, hheader, h⟩ := exists_of_bind h
    simp only at h
    split at h
    · cases h
    · cases h
    · split at h
      · cases h
      · cases h
    next s hinflate =>
      split at h
      · cases h
      next hsize =>
        obtain ⟨⟨⟩, htrailer, h⟩ := exists_of_bind h
        obtain rfl := Option.some.inj (Except.ok.inj h)
        refine ⟨⟨body, s, hheader, (inflate_eq_ok_iff.1 hinflate).1, rfl,
          checkTrailer_eq_ok_iff.1 htrailer⟩, ?_⟩
        rw [Array.length_toList]
        omega
  · rintro ⟨⟨body, s, hheader, hblocks, rfl, htrailer⟩, hlimit⟩
    rw [Array.length_toList] at hlimit
    have hcap : s.out.size ≤ capFor limit := Nat.le_of_lt (Nat.lt_of_le_of_lt hlimit (lt_capFor limit))
    rw [bind_of_ok hheader, inflate_eq_ok_iff.2 ⟨hblocks, hcap⟩]
    simp only [if_neg (Nat.not_lt.2 hlimit)]
    exact bind_of_ok (checkTrailer_eq_ok_iff.2 htrailer) _

theorem member_compress (input : Bytes) : Member (compress input) input := by
  have h := decompress?_compress input.length input
  rw [if_pos (Nat.le_refl _)] at h
  exact (decompress?_eq_some_iff.1 h).1

end Waystation.Gzip
