import Waystation.Config.Environment
import Waystation.Lookup
import Waystation.Proofs.Text.Trimming
/-!
Plain files of assignments. A line of such a file is empty, a remark, or a name and a value with an equals
sign between them, where nothing is quoted, escaped or referred to. The file sets the variables that it
names and that are not set, in the order of its lines.
-/
namespace Waystation.Environment

/-- A character of a name. -/
def isNameChar (c : Char) : Bool := c.isAlphanum || c = '_' || c = '.'

/-- A character that stands for itself where a value is. -/
def isLiteralChar (c : Char) : Bool :=
  !Text.isBlank c && c ∉ ['\\', '\'', '"', '$', Char.ofNat 0]

/-- A name that a line may assign to. -/
structure IsName (name : String) : Prop where
  first : (name.toList.head?.any fun c => c.isAlpha || c = '_') = true
  all : name.toList.all isNameChar = true

/-- A value that stands for itself. -/
structure IsLiteral (value : String) : Prop where
  noRemark : value.toList.head? ≠ some '#'
  all : value.toList.all isLiteralChar = true

instance (name : String) : Decidable (IsName name) :=
  decidable_of_iff (_ ∧ _) ⟨fun h => ⟨h.1, h.2⟩, fun h => ⟨h.first, h.all⟩⟩

instance (value : String) : Decidable (IsLiteral value) :=
  decidable_of_iff (_ ∧ _) ⟨fun h => ⟨h.1, h.2⟩, fun h => ⟨h.noRemark, h.all⟩⟩

/-- A line of a plain file. -/
inductive Line
  | blank
  | remark (text : String)
  | assignment (name value : String)
  deriving DecidableEq, Repr

namespace Line

/-- How a line is written. -/
def text : Line → String
  | blank => ""
  | remark text => "#" ++ text
  | assignment name value => name ++ "=" ++ value

/-- What a line assigns. -/
def assigned : Line → Option (String × String)
  | assignment name value => some (name, value)
  | _ => none

/-- Is what is written one line that says this? -/
def IsPlain : Line → Prop
  | blank => True
  | remark text => '\n' ∉ text.toList
  | assignment name value => IsName name ∧ IsLiteral value

instance (l : Line) : Decidable l.IsPlain :=
  match l with
  | blank => inferInstanceAs (Decidable True)
  | remark text => inferInstanceAs (Decidable ('\n' ∉ text.toList))
  | assignment name value => inferInstanceAs (Decidable (IsName name ∧ IsLiteral value))

theorem text_ne_empty {l : Line} (h : l ≠ .blank) : l.text ≠ "" := by
  intro hempty
  have hchars := congrArg String.toList hempty
  cases l with
  | blank => exact h rfl
  | remark text =>
    rw [Line.text, String.toList_append] at hchars
    cases hchars
  | assignment name value =>
    rw [Line.text, String.toList_append, String.toList_append, List.append_assoc] at hchars
    exact List.cons_ne_nil _ _ (List.append_eq_nil_iff.1 hchars).2

end Line

/-- The file that lines make. -/
def fileOf (lines : List Line) : Bytes := Bytes.ofText ("\n".intercalate (lines.map Line.text))

/-- What lines assign, in order. -/
def assignments (lines : List Line) : Environment := lines.filterMap Line.assigned

/-- Sets variables in order, each unless it is set. -/
def setDefaults (pairs env : Environment) : Environment :=
  pairs.foldl (fun env p => env.setDefault p.1 p.2) env

/-- What is set stays, and what is not set is as it is assigned first. -/
theorem lookup_setDefaults (pairs env : Environment) (name : String) :
    (setDefaults pairs env).lookup name = (env.lookup name).or (pairs.lookup name) := by
  induction pairs generalizing env with
  | nil => exact (Option.or_none).symm
  | cons p pairs ih =>
    have hset : (env.setDefault p.1 p.2).lookup name = (env.lookup name).or ([p].lookup name) := by
      rw [setDefault]
      split
      next hsome =>
        by_cases hname : name = p.1
        · obtain ⟨value, hvalue⟩ := Option.isSome_iff_exists.1 hsome
          rw [hname, hvalue]
          rfl
        · rw [lookup_cons_if, if_neg hname]
          exact Option.or_none.symm
      next => exact List.lookup_append
    have hcons : (p :: pairs).lookup name = ([p].lookup name).or (pairs.lookup name) := by
      rw [← List.singleton_append, List.lookup_append]
    show (setDefaults pairs (env.setDefault p.1 p.2)).lookup name = _
    rw [ih, hset, hcons, Option.or_assoc]

section Reading

variable {c : Char} {cs : List Char} {name value : String} {l : Line} {lines : List Line}

/-! Names and values. -/

theorem IsName.isNameChar_of_mem (h : IsName name) (hc : c ∈ name.toList) : isNameChar c = true :=
  List.all_eq_true.1 h.all c hc

theorem IsName.exists_cons (h : IsName name) :
    ∃ c rest, name.toList = c :: rest ∧ isNameChar c = true := by
  have hfirst := h.first
  cases hchars : name.toList with
  | nil =>
    rw [hchars] at hfirst
    cases hfirst
  | cons c rest =>
    exact ⟨c, rest, rfl, h.isNameChar_of_mem (by rw [hchars]; exact List.mem_cons_self)⟩

theorem bounds_of_isNameChar (h : isNameChar c = true) : 46 ≤ c.toNat ∧ c.toNat < 123 := by
  simp only [isNameChar, Bool.or_eq_true, decide_eq_true_eq] at h
  rcases h with (halnum | rfl) | rfl
  · rcases Bool.or_eq_true_iff.1 halnum with halpha | hdigit
    · rcases Bool.or_eq_true_iff.1 halpha with hupper | hlower
      · obtain ⟨hlow, hhigh⟩ := of_decide_eq_true hupper
        exact ⟨Nat.le_trans (by decide) hlow, Nat.lt_of_le_of_lt hhigh (by decide)⟩
      · obtain ⟨hlow, hhigh⟩ := Bool.and_eq_true_iff.1 hlower
        exact ⟨Nat.le_trans (by decide) (of_decide_eq_true hlow),
          Nat.lt_of_le_of_lt (of_decide_eq_true hhigh) (by decide)⟩
    · obtain ⟨hlow, hhigh⟩ := Char.isDigit_iff_toNat.1 hdigit
      exact ⟨Nat.le_trans (by decide) hlow, Nat.lt_of_le_of_lt hhigh (by decide)⟩
  · decide
  · decide

theorem isBlank_of_isNameChar (h : isNameChar c = true) : Text.isBlank c = false := by
  obtain ⟨hlow, hhigh⟩ := bounds_of_isNameChar h
  simp only [Text.isBlank, Bool.or_eq_false_iff, Bool.and_eq_false_iff, decide_eq_false_iff_not,
    beq_eq_false_iff_ne]
  omega

theorem isLiteralChar_iff : isLiteralChar c = true
    ↔ Text.isBlank c = false ∧ c ∉ ['\\', '\'', '"', '$', Char.ofNat 0] := by
  simp [isLiteralChar]

theorem IsLiteral.isLiteralChar_of_mem (h : IsLiteral value) (hc : c ∈ value.toList) :
    isLiteralChar c = true :=
  List.all_eq_true.1 h.all c hc

/-- Nothing in an assignment is white space, and nothing changes what comes behind it. -/
theorem literal_of_mem (hname : IsName name) (hvalue : IsLiteral value)
    (h : c ∈ (name ++ "=" ++ value).toList) : Text.isBlank c = false ∧ c ∉ ['\\', '"', '\''] := by
  rw [String.toList_append, String.toList_append, List.mem_append, List.mem_append] at h
  rcases h with (hmem | hmem) | hmem
  · have hc := hname.isNameChar_of_mem hmem
    refine ⟨isBlank_of_isNameChar hc, fun hquote => ?_⟩
    simp only [List.mem_cons, List.not_mem_nil, or_false] at hquote
    rcases hquote with rfl | rfl | rfl <;> exact absurd hc (by decide)
  · obtain rfl := List.mem_singleton.1 hmem
    decide
  · obtain ⟨hblank, hspecial⟩ := isLiteralChar_iff.1 (hvalue.isLiteralChar_of_mem hmem)
    refine ⟨hblank, fun hquote => hspecial ?_⟩
    simp only [List.mem_cons, List.not_mem_nil, or_false] at hquote ⊢
    rcases hquote with rfl | rfl | rfl <;> simp

/-- A name ends where none of its characters follows. -/
theorem readName_append (h : IsName name) (hcs : ∀ c ∈ cs.head?, isNameChar c = false) :
    readName (name.toList ++ cs) = some (name, cs) := by
  have htake : (name.toList ++ cs).takeWhile isNameChar = name.toList := by
    have hnone : cs.takeWhile isNameChar = [] := by
      cases cs with
      | nil => rfl
      | cons c cs => exact List.takeWhile_cons_of_neg (by simp [hcs c rfl])
    rw [List.takeWhile_append_of_pos fun c => h.isNameChar_of_mem, hnone, List.append_nil]
  have hfirst := h.first
  cases hchars : name.toList with
  | nil =>
    rw [hchars] at hfirst
    cases hfirst
  | cons c rest =>
    have hspell : String.ofList (c :: rest) = name := by rw [← hchars, String.ofList_toList]
    rw [hchars] at hfirst htake
    change (c.isAlpha || decide (c = '_')) = true at hfirst
    show (if _ then some (String.ofList ((c :: rest ++ cs).takeWhile isNameChar),
      (c :: rest ++ cs).drop ((c :: rest ++ cs).takeWhile isNameChar).length) else none) = _
    rw [if_pos hfirst, htake, hspell, List.drop_left]

theorem afterEquals_literal (h : IsLiteral value) :
    afterEquals ('=' :: value.toList) = some value.toList := by
  have hstart : value.toList.dropWhile Text.isBlank = value.toList :=
    Text.dropWhile_blank fun c hc =>
      (isLiteralChar_iff.1 (h.isLiteralChar_of_mem (List.mem_of_head? hc))).1
  show some (value.toList.dropWhile Text.isBlank) = _
  rw [hstart]

theorem readValue_literal (lookup : String → String) (read : List Char)
    (h : ∀ c ∈ cs, isLiteralChar c = true) :
    readValue lookup .bare cs read = some (String.ofList (read.reverse ++ cs)) := by
  induction cs generalizing read with
  | nil => exact congrArg (some ∘ String.ofList) (List.append_nil read.reverse).symm
  | cons c cs ih =>
    obtain ⟨hc, hrest⟩ := List.forall_mem_cons.1 h
    obtain ⟨hblank, hspecial⟩ := isLiteralChar_iff.1 hc
    have hnext : ValueState.next lookup c read .bare = some (.bare, c :: read) := by
      have hgap : ¬ (c = ' ' ∨ c = '\t') := by
        rintro (rfl | rfl) <;> exact absurd hblank (by decide)
      simp only [List.mem_cons, not_or] at hspecial
      obtain ⟨hescape, hstrong, hweak, hreference, -⟩ := hspecial
      rw [ValueState.next, if_neg hreference, if_neg hstrong, if_neg hweak, if_neg hescape,
        if_neg hgap]
    have hreverse : read.reverse ++ c :: cs = (c :: read).reverse ++ cs := by simp
    rw [readValue, hnext, hreverse]
    · exact ih _ hrest
    · exact nofun

/-- An assignment is read whatever white space ends its line. -/
theorem readLine_assignment (lookup : String → String) (hname : IsName name)
    (hvalue : IsLiteral value) {gap : String} (hgap : ∀ c ∈ gap.toList, Text.isBlank c = true) :
    readLine lookup (name ++ "=" ++ value ++ gap) = some (some (name, value)) := by
  have htrimmed : Text.Trimmed (name ++ "=" ++ value) :=
    ⟨fun c hc => (literal_of_mem hname hvalue (List.mem_of_head? hc)).1,
      fun c hc => (literal_of_mem hname hvalue (List.mem_of_getLast? hc)).1⟩
  have hchars : (Text.trim (name ++ "=" ++ value ++ gap)).toList
      = name.toList ++ '=' :: value.toList := by
    rw [Text.trim_append htrimmed hgap]
    simp
  have hfirst : ¬ (name.toList ++ '=' :: value.toList = []
      ∨ (name.toList ++ '=' :: value.toList).head? = some '#') := by
    obtain ⟨c, rest, hcons, hc⟩ := hname.exists_cons
    rw [hcons]
    rintro (hnil | hremark)
    · cases hnil
    · obtain rfl := Option.some.inj hremark
      exact absurd hc (by decide)
  have hread : readName (name.toList ++ '=' :: value.toList) = some (name, '=' :: value.toList) :=
    readName_append hname fun c hc => by
      obtain rfl := Option.some.inj hc
      decide
  rw [readLine, hchars, if_neg hfirst, hread]
  simp only [Option.bind_eq_bind, Option.bind_some, afterEquals_literal hvalue]
  by_cases hempty : value.toList = []
  · obtain rfl : value = "" := String.toList_inj.1 hempty
    rfl
  · have hthere : ¬ (value.toList = [] ∨ value.toList.head? = some '#') :=
      not_or.2 ⟨hempty, hvalue.noRemark⟩
    have hbare := readValue_literal lookup [] fun c => hvalue.isLiteralChar_of_mem
    rw [List.reverse_nil, List.nil_append, String.ofList_toList] at hbare
    rw [if_neg hthere, hbare]
    rfl

/-! Lines that leave nothing open. -/

theorem next_open (hblank : Text.isBlank c = false ∨ c = '\n') (hquote : c ∉ ['\\', '"', '\'']) :
    LineState.open.next c = some .open := by
  have hgap : ¬ (Text.isBlank c = true ∧ c ≠ '\n' ∧ c ≠ '\r') := by
    rintro ⟨hb, hn, -⟩
    rcases hblank with hblank | rfl
    · rw [hblank] at hb
      cases hb
    · exact hn rfl
  simp only [List.mem_cons, not_or] at hquote
  obtain ⟨hescape, hweak, hstrong, -⟩ := hquote
  rw [LineState.next, if_neg hescape, if_neg hweak, if_neg hstrong]
  exact congrArg some (if_neg hgap)

theorem scanLine_open (read : List Char) (h : ∀ c ∈ cs, LineState.open.next c = some .open) :
    scanLine .open cs read = (read.reverse ++ cs, some .open) := by
  induction cs generalizing read with
  | nil => rw [scanLine, List.append_nil]
  | cons c cs ih =>
    obtain ⟨hc, hcs⟩ := List.forall_mem_cons.1 h
    rw [scanLine, hc]
    dsimp only
    rw [ih _ hcs, List.reverse_cons, List.append_assoc]
    rfl

theorem joinLines_remark {line : String} (later : List Bytes)
    (h : (line.toList.dropWhile Text.isBlank).head? = some '#') :
    joinLines (Bytes.ofText line :: later) [] .open = some "" :: joinLines later [] .open := by
  rw [joinLines, Bytes.toText?_ofText]
  exact if_pos h

theorem joinLines_open {line : String} (later : List Bytes)
    (hfirst : (line.toList.dropWhile Text.isBlank).head? ≠ some '#')
    (h : ∀ c ∈ line.toList, LineState.open.next c = some .open) :
    joinLines (Bytes.ofText line :: later) [] .open = some line :: joinLines later [] .open := by
  rw [joinLines, Bytes.toText?_ofText]
  dsimp only
  rw [List.nil_append, if_neg hfirst, scanLine_open [] h]
  dsimp only
  rw [String.ofList_toList]

theorem eq_newline_of_mem {gap : String} (hgap : gap = "" ∨ gap = "\n") (hc : c ∈ gap.toList) :
    c = '\n' := by
  rcases hgap with rfl | rfl
  · cases hc
  · exact List.mem_singleton.1 hc

/-- A line of a plain file, with its end or without, is read as what it assigns. -/
theorem joinLines_plain (h : l.IsPlain) (later : List Bytes) {gap : String}
    (hgap : gap = "" ∨ gap = "\n") :
    ∃ kept, joinLines (Bytes.ofText (l.text ++ gap) :: later) [] .open
        = some kept :: joinLines later [] .open
      ∧ ∀ lookup, readLine lookup kept = some l.assigned := by
  cases l with
  | blank =>
    refine ⟨gap, ?_, fun lookup => ?_⟩
    · rw [Line.text, String.empty_append]
      refine joinLines_open later ?_ fun c hc => ?_
      · rcases hgap with rfl | rfl <;> decide
      · rw [eq_newline_of_mem hgap hc]
        decide
    · rcases hgap with rfl | rfl <;> rfl
  | remark text =>
    refine ⟨"", joinLines_remark later ?_, fun lookup => rfl⟩
    rw [Line.text, String.append_assoc, String.toList_append]
    rfl
  | assignment name value =>
    obtain ⟨hname, hvalue⟩ := h
    have hblank : ∀ c ∈ gap.toList, Text.isBlank c = true := by
      intro c hc
      rw [eq_newline_of_mem hgap hc]
      decide
    refine ⟨_, joinLines_open later ?_ fun c hc => ?_, fun lookup =>
      readLine_assignment lookup hname hvalue hblank⟩
    · obtain ⟨c, rest, hcons, hc⟩ := hname.exists_cons
      have hstart : Text.isBlank c ≠ true := by simp [isBlank_of_isNameChar hc]
      rw [Line.text, String.toList_append, String.toList_append, String.toList_append, hcons,
        List.cons_append, List.cons_append, List.cons_append, List.dropWhile_cons_of_neg hstart]
      intro hremark
      obtain rfl := Option.some.inj hremark
      exact absurd hc (by decide)
    · rw [String.toList_append, List.mem_append] at hc
      rcases hc with hmem | hmem
      · obtain ⟨hchar, hquote⟩ := literal_of_mem hname hvalue hmem
        exact next_open (.inl hchar) hquote
      · rw [eq_newline_of_mem hgap hmem]
        decide

theorem applyLines_cons {kept : String} {assigned : Option (String × String)}
    (h : ∀ lookup, readLine lookup kept = some assigned) (later : List (Option String))
    (earlier env : Environment) :
    applyLines (some kept :: later) earlier env
      = applyLines later (assigned.toList ++ earlier) (setDefaults assigned.toList env) := by
  rw [applyLines, h]
  cases assigned <;> rfl

/-! Files of lines. -/

theorem rawLines_line {bytes : Bytes} (h : 10 ∉ bytes) (rest line : Bytes) :
    rawLines (bytes ++ 10 :: rest) line = (line.reverse ++ bytes ++ [10]) :: rawLines rest [] := by
  induction bytes generalizing line with
  | nil => rw [List.nil_append, rawLines, if_pos rfl, List.reverse_cons, List.append_nil]
  | cons b bytes ih =>
    obtain ⟨hb, hrest⟩ := not_or.1 (mt List.mem_cons.2 h)
    rw [List.cons_append, rawLines, if_neg (Ne.symm hb), ih hrest, List.reverse_cons]
    simp

theorem rawLines_last {bytes : Bytes} (h : 10 ∉ bytes) (line : Bytes)
    (hne : line.reverse ++ bytes ≠ []) : rawLines bytes line = [line.reverse ++ bytes] := by
  induction bytes generalizing line with
  | nil =>
    cases line with
    | nil => exact absurd rfl hne
    | cons b line =>
      rw [rawLines, List.append_nil]
      exact List.cons_ne_nil b line
  | cons b bytes ih =>
    obtain ⟨hb, hrest⟩ := not_or.1 (mt List.mem_cons.2 h)
    have hshift : line.reverse ++ b :: bytes = (b :: line).reverse ++ bytes := by simp
    rw [rawLines, if_neg (Ne.symm hb), hshift]
    exact ih hrest _ (hshift ▸ hne)

theorem fileOf_singleton (l : Line) : fileOf [l] = Bytes.ofText l.text :=
  congrArg Bytes.ofText String.intercalate_singleton

theorem fileOf_cons (l : Line) (h : lines ≠ []) :
    fileOf (l :: lines) = Bytes.ofText l.text ++ 10 :: fileOf lines := by
  rw [fileOf, List.map_cons, String.intercalate_cons_of_ne_nil (mt List.map_eq_nil_iff.1 h),
    Bytes.ofText_append, Bytes.ofText_append, List.append_assoc]
  rfl

theorem newline_not_mem_text (h : l.IsPlain) : 10 ∉ Bytes.ofText l.text := by
  refine Bytes.newline_not_mem ?_
  cases l with
  | blank => exact List.not_mem_nil
  | remark text =>
    rw [Line.text, String.toList_append]
    exact List.not_mem_append (by decide) h
  | assignment name value =>
    intro hmem
    exact absurd (literal_of_mem h.1 h.2 hmem).1 (by decide)

theorem applyLines_fileOf (h : ∀ l ∈ lines, l.IsPlain) (earlier env : Environment) :
    applyLines (joinLines (rawLines (fileOf lines) []) [] .open) earlier env
      = setDefaults (assignments lines) env := by
  induction lines generalizing earlier env with
  | nil => rfl
  | cons l lines ih =>
    obtain ⟨hl, hlines⟩ := List.forall_mem_cons.1 h
    have hfree := newline_not_mem_text hl
    have hassigned : setDefaults (assignments (l :: lines)) env
        = setDefaults (assignments lines) (setDefaults l.assigned.toList env) := by
      rw [assignments, List.filterMap_cons]
      cases l.assigned <;> rfl
    by_cases hlast : lines = []
    · subst hlast
      -- nothing is left of an empty line at the end
      by_cases hblank : l = .blank
      · subst hblank
        rfl
      · have hne : Bytes.ofText l.text ≠ [] := fun hempty =>
          Line.text_ne_empty hblank (Bytes.ofText_inj (hempty.trans Bytes.ofText_empty.symm))
        obtain ⟨kept, hjoin, hread⟩ := joinLines_plain hl [] (.inl rfl)
        rw [String.append_empty] at hjoin
        rw [fileOf_singleton, rawLines_last hfree [] hne, List.reverse_nil, List.nil_append, hjoin,
          applyLines_cons hread, hassigned]
        rfl
    · obtain ⟨kept, hjoin, hread⟩ := joinLines_plain hl (rawLines (fileOf lines) []) (.inr rfl)
      have hend : Bytes.ofText (l.text ++ "\n") = Bytes.ofText l.text ++ [10] :=
        Bytes.ofText_append l.text "\n"
      rw [hend] at hjoin
      rw [fileOf_cons l hlast, rawLines_line hfree, List.reverse_nil, List.nil_append, hjoin,
        applyLines_cons hread, ih hlines, hassigned]

theorem head?_text (h : l.IsPlain) : (Bytes.ofText l.text).head? ≠ some 0xEF := by
  cases l with
  | blank => decide
  | remark text =>
    have hchars : (Line.remark text).text.toList = '#' :: text.toList := by
      rw [Line.text, String.toList_append]
      rfl
    rw [Bytes.head?_ofText hchars (by decide)]
    decide
  | assignment name value =>
    obtain ⟨c, rest, hcons, hc⟩ := h.1.exists_cons
    have hchars : (Line.assignment name value).text.toList = c :: (rest ++ '=' :: value.toList) := by
      rw [Line.text, String.toList_append, String.toList_append, hcons]
      simp
    have hbound := (bounds_of_isNameChar hc).2
    rw [Bytes.head?_ofText hchars (by omega)]
    intro hmark
    have hbyte : c.toNat % 256 = 239 := by
      rw [← UInt8.toNat_ofNat', Option.some.inj hmark]
      rfl
    omega

/-- No plain file starts with the mark. -/
theorem noMark_fileOf (h : ∀ l ∈ lines, l.IsPlain) :
    byteOrderMark.isPrefixOf (fileOf lines) = false := by
  have hfirst : (fileOf lines).head? ≠ some 0xEF := by
    cases lines with
    | nil => decide
    | cons l lines =>
      have hl := head?_text (h l List.mem_cons_self)
      by_cases hlast : lines = []
      · subst hlast
        rwa [fileOf_singleton]
      · rw [fileOf_cons l hlast, List.head?_append]
        cases hhead : (Bytes.ofText l.text).head? with
        | none => exact fun hmark => absurd (Option.some.inj hmark) (by decide)
        | some b => rwa [hhead] at hl
  cases hbytes : fileOf lines with
  | nil => rfl
  | cons b rest =>
    rw [hbytes] at hfirst
    have hne : b ≠ 0xEF := fun hb => hfirst (congrArg some hb)
    simp [byteOrderMark, List.isPrefixOf, hne.symm]

/-- A plain file sets what it assigns and what is not set, in order. -/
theorem applyFile_fileOf (h : ∀ l ∈ lines, l.IsPlain) (env : Environment) :
    env.applyFile (fileOf lines) = setDefaults (assignments lines) env := by
  rw [applyFile, noMark_fileOf h]
  exact applyLines_fileOf h [] env

end Reading

end Waystation.Environment
