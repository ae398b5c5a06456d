import Waystation.Proofs.Yaml.Same
import Mathlib.Data.List.DropRight
/-!
What layers laid over each other come to, without laying any: of the values that have a say the last
one counts, but mappings that nothing else comes between count together, and under each of their keys
stands what the values under it come to. So a layer that is given twice counts once, a null takes
nothing away, and a key stays as long as the mappings around it do.
-/
namespace Waystation.Yaml.Value

variable {u v w j k : Value} {es bs : List Entry} {layers : List Value}

/-- Does no mapping of a value have a key twice? -/
inductive Lawful : Value → Prop
  | scalar (s : Scalar) : Lawful (.scalar s)
  | list {vs : List Value} (items : ∀ v ∈ vs, Lawful v) : Lawful (.list vs)
  | map {es : List Entry} (apart : Apart (es.map Prod.fst)) (keys : ∀ e ∈ es, Lawful e.1)
      (values : ∀ e ∈ es, Lawful e.2) : Lawful (.map es)
  | tagged {t : String} {v : Value} (value : Lawful v) : Lawful (.tagged t v)

theorem apart_of_lawful (h : (map es).Lawful) : Apart (es.map Prod.fst) := by
  cases h with
  | map hapart _ _ => exact hapart

theorem lawful_of_lookup (h : (map es).Lawful) (hv : lookup k es = some v) : v.Lawful := by
  cases h with
  | map _ _ hvalues =>
    obtain ⟨e, he, -, rfl⟩ := exists_of_lookup hv
    exact hvalues e he

theorem lawful_empty : (map []).Lawful := .map .nil (by simp) (by simp)

theorem lawful_snoc (h : (map es).Lawful) (hk : k.Lawful) (hv : v.Lawful)
    (hnew : lookup k es = none) : (map (es ++ [(k, v)])).Lawful := by
  cases h with
  | map hapart hkeys hvalues =>
    refine .map ?_ (List.forall_mem_append.2 ⟨hkeys, List.forall_mem_singleton.2 hk⟩)
      (List.forall_mem_append.2 ⟨hvalues, List.forall_mem_singleton.2 hv⟩)
    rw [List.map_append]
    refine List.pairwise_append.2 ⟨hapart, List.pairwise_singleton _ _, fun i hi j hj => ?_⟩
    obtain rfl := List.mem_singleton.1 hj
    obtain ⟨e, he, rfl⟩ := List.mem_map.1 hi
    rw [same_comm]
    exact lookup_eq_none_iff.1 hnew e he

theorem lookup_none_of_apart (h : Apart (k :: es.map Prod.fst)) (hj : j.same k) :
    lookup j es = none := by
  rw [lookup_eq_none_iff]
  intro e he
  rw [same_congr hj]
  exact (List.pairwise_cons.1 h).1 e.1 (List.mem_map_of_mem he)

/-- Under a key stands what the upper entries have there, over what the lower ones have. -/
theorem lookup_entriesOver (h : Apart (es.map Prod.fst)) (j : Value) (bs : List Entry) :
    lookup j (entriesOver es bs) = match lookup j es with
      | none => lookup j bs
      | some v => some ((lookup j bs).elim v (laidOver v)) := by
  induction es generalizing bs with
  | nil => rfl
  | cons e es ih =>
    obtain ⟨k, v⟩ := e
    obtain ⟨-, hrest⟩ := List.pairwise_cons.1 h
    rw [entriesOver, lookup]
    by_cases hj : j.same k
    · rw [if_pos hj]
      have hnone := lookup_none_of_apart h hj
      cases hold : lookup k bs with
      | none => simp [ih hrest, hnone, lookup_append, lookup_congr hj, hold]
      | some old => simp [ih hrest, hnone, lookup_replace, same_refl, lookup_congr hj, hold]
    · rw [if_neg hj]
      cases lookup k bs with
      | none => simp [ih hrest, lookup_append, lookup, hj]
      | some old => simp [ih hrest, lookup_replace, hj]

/-- The lower keys come first, then the upper ones that are new. -/
theorem keys_entriesOver (h : Apart (es.map Prod.fst)) (bs : List Entry) :
    (entriesOver es bs).map Prod.fst = bs.map Prod.fst
      ++ (es.map Prod.fst).filter fun k => !(bs.map Prod.fst).any k.same := by
  induction es generalizing bs with
  | nil => simp [entriesOver]
  | cons e es ih =>
    obtain ⟨k, v⟩ := e
    obtain ⟨hfirst, hrest⟩ := List.pairwise_cons.1 h
    rw [entriesOver, List.map_cons]
    cases hold : lookup k bs with
    | some old =>
      have hin : (bs.map Prod.fst).any k.same = true := by
        rw [← isSome_lookup, hold, Option.isSome_some]
      rw [List.filter_cons_of_neg (by simp only [hin]; decide)]
      simpa [keys_replace] using ih hrest (replace k (laidOver v old) bs)
    | none =>
      have hnew : (bs.map Prod.fst).any k.same = false := by
        rw [← isSome_lookup, hold, Option.isSome_none]
      rw [List.filter_cons_of_pos (by simp only [hnew]; decide), ih hrest]
      simp only [List.map_append, List.map_singleton, List.append_assoc, List.singleton_append,
        List.any_append, List.any_cons, List.any_nil, Bool.or_false]
      refine congrArg _ (congrArg _ (List.filter_congr fun j hj => ?_))
      rw [same_comm j, hfirst j hj, Bool.or_false]

/-- Adds a key, unless it is there. -/
def addKey (keys : List Value) (k : Value) : List Value :=
  if keys.any k.same then keys else keys ++ [k]

/-- The keys of mappings, each once, in the order in which they are met. -/
def keysOf (maps : List (List Entry)) : List Value :=
  (maps.flatMap fun es => es.map Prod.fst).foldl addKey []

theorem apart_addKeys {keys : List Value} (h : Apart keys) (more : List Value) :
    Apart (more.foldl addKey keys) := by
  induction more generalizing keys with
  | nil => exact h
  | cons k more ih =>
    refine ih ?_
    rw [addKey]
    split
    next => exact h
    next hnew =>
      refine List.pairwise_append.2 ⟨h, List.pairwise_singleton _ _, fun i hi j hj => ?_⟩
      obtain rfl := List.mem_singleton.1 hj
      rw [same_comm]
      exact Bool.eq_false_iff.2 fun hsame => hnew (List.any_eq_true.2 ⟨i, hi, hsame⟩)

theorem any_addKeys (k : Value) (keys more : List Value) :
    (more.foldl addKey keys).any k.same = (keys.any k.same || more.any k.same) := by
  induction more generalizing keys with
  | nil => simp
  | cons j more ih =>
    rw [List.foldl_cons, ih, addKey, List.any_cons]
    split
    next hin =>
      -- a key that is the same as the one passed over is the same as one that is there
      cases hk : k.same j with
      | false => simp
      | true =>
        obtain ⟨i, hi, hji⟩ := List.any_eq_true.1 hin
        have hki : keys.any k.same = true := List.any_eq_true.2 ⟨i, hi, same_trans hk hji⟩
        simp [hki]
    next => simp [Bool.or_assoc]

/-- Of keys that differ from each other the new ones are added. -/
theorem addKeys_of_apart {more : List Value} (h : Apart more) (keys : List Value) :
    more.foldl addKey keys = keys ++ more.filter fun k => !keys.any k.same := by
  induction more generalizing keys with
  | nil => simp
  | cons k more ih =>
    obtain ⟨hfirst, hrest⟩ := List.pairwise_cons.1 h
    rw [List.foldl_cons, addKey]
    split
    next hin => rw [ih hrest, List.filter_cons_of_neg (by simp only [hin]; decide)]
    next hnew =>
      rw [ih hrest, List.filter_cons_of_pos (by simpa using hnew), List.append_assoc,
        List.singleton_append]
      refine congrArg _ (congrArg _ (List.filter_congr fun j hj => ?_))
      simp [same_comm j k, hfirst j hj]

/-- Keys that are there add nothing. -/
theorem addKeys_of_known {keys more : List Value} (h : ∀ k ∈ more, keys.any k.same = true) :
    more.foldl addKey keys = keys := by
  induction more with
  | nil => rfl
  | cons k more ih =>
    obtain ⟨hfirst, hrest⟩ := List.forall_mem_cons.1 h
    rw [List.foldl_cons, addKey, if_pos hfirst, ih hrest]

theorem keysOf_append (maps more : List (List Entry)) :
    keysOf (maps ++ more) = (more.flatMap fun es => es.map Prod.fst).foldl addKey (keysOf maps) := by
  rw [keysOf, List.flatMap_append, List.foldl_append, keysOf]

theorem apart_keysOf (maps : List (List Entry)) : Apart (keysOf maps) := apart_addKeys .nil _

/-- The values under a key, in the order of their mappings. -/
def valuesAt (k : Value) (maps : List (List Entry)) : List Value := maps.filterMap (lookup k)

theorem valuesAt_append (k : Value) (maps more : List (List Entry)) :
    valuesAt k (maps ++ more) = valuesAt k maps ++ valuesAt k more :=
  List.filterMap_append

/-- A key is among those of mappings if one of them has it. -/
theorem any_keysOf_iff (k : Value) (maps : List (List Entry)) :
    (keysOf maps).any k.same ↔ valuesAt k maps ≠ [] := by
  have hany : (keysOf maps).any k.same = maps.any fun es => (lookup k es).isSome := by
    rw [keysOf, any_addKeys, List.any_nil, Bool.false_or, List.any_flatMap]
    exact congrArg _ (funext fun es => (isSome_lookup k es).symm)
  rw [hany, valuesAt, Ne, List.filterMap_eq_nil_iff]
  simp [Option.isSome_iff_ne_none]

theorem keysOf_again (maps more : List (List Entry)) :
    keysOf (maps ++ more ++ more) = keysOf (maps ++ more) := by
  rw [keysOf_append (maps ++ more)]
  refine addKeys_of_known fun k hk => ?_
  obtain ⟨es, hes, hkey⟩ := List.mem_flatMap.1 hk
  have hfound : (lookup k es).isSome = true := by
    rw [isSome_lookup]
    exact List.any_eq_true.2 ⟨k, hkey, same_refl k⟩
  obtain ⟨v, hv⟩ := Option.isSome_iff_exists.1 hfound
  rw [any_keysOf_iff, valuesAt_append]
  exact List.append_ne_nil_of_right_ne_nil _
    (List.ne_nil_of_mem (List.mem_filterMap.2 ⟨es, hes, hv⟩))

/-- Is a value neither nothing nor a mapping? -/
def isSolid : Value → Bool
  | .scalar .null => false
  | .map _ => false
  | _ => true

def entries? : Value → Option (List Entry)
  | .map es => some es
  | _ => none

/-- The layers behind the last solid one. -/
def behind (layers : List Value) : List Value := layers.rtakeWhile fun v => !v.isSolid

/-- The mappings that count. -/
def kept (layers : List Value) : List (List Entry) := (behind layers).filterMap entries?

/-- The last solid layer, or nothing if there is none or it fades as soon as something comes behind
it. -/
def ground (fades : Value → Bool) (layers : List Value) : Value :=
  match (layers.filter isSolid).getLast? with
  | none => null
  | some v => if fades v && !(behind layers).isEmpty then null else v

theorem behind_snoc (layers : List Value) (v : Value) :
    behind (layers ++ [v]) = if v.isSolid then [] else behind layers ++ [v] := by
  rw [behind, List.rtakeWhile_concat, behind]
  cases v.isSolid <;> rfl

theorem behind_append (before layers : List Value) :
    behind (before ++ layers)
      = if layers.any isSolid then behind layers else behind before ++ layers := by
  induction layers using List.reverseRecOn with
  | nil => simp
  | append_singleton layers v ih =>
    rw [← List.append_assoc, behind_snoc, behind_snoc, ih]
    cases hv : v.isSolid <;> by_cases hany : layers.any isSolid <;> simp [hv, hany]

theorem kept_append (before layers : List Value) :
    kept (before ++ layers)
      = if layers.any isSolid then kept layers else kept before ++ layers.filterMap entries? := by
  rw [kept, behind_append, kept, kept]
  split
  · rfl
  · exact List.filterMap_append

/-- How much there is in layers. -/
noncomputable def weight : List Value → Nat
  | [] => 0
  | v :: layers => sizeOf v + weight layers

theorem weight_append (layers more : List Value) :
    weight (layers ++ more) = weight layers + weight more := by
  induction layers with
  | nil => simp [weight]
  | cons v layers ih => simp [weight, ih, Nat.add_assoc]

theorem weight_lookup_le (k : Value) (layers : List Value) :
    weight (valuesAt k (layers.filterMap entries?))
        + (layers.filterMap entries?).length ≤ weight layers := by
  induction layers with
  | nil => simp [weight, valuesAt]
  | cons v layers ih =>
    have hcons : weight (v :: layers) = sizeOf v + weight layers := rfl
    cases v with
    | map es =>
      have hes : (Value.map es :: layers).filterMap entries?
          = es :: layers.filterMap entries? := rfl
      rw [hes, hcons, List.length_cons]
      cases hfound : lookup k es with
      | none =>
        rw [valuesAt, List.filterMap_cons_none hfound, ← valuesAt]
        have : 0 < sizeOf (Value.map es) := by rw [map.sizeOf_spec]; omega
        omega
      | some w =>
        rw [valuesAt, List.filterMap_cons_some hfound, ← valuesAt]
        obtain ⟨e, he, -, rfl⟩ := exists_of_lookup hfound
        have := (sizeOf_of_mem he).2
        rw [weight]
        omega
    | _ =>
      rw [hcons]
      exact Nat.le_trans ih (Nat.le_add_left _ _)

/-- There is less under a key of mappings that count than in all the layers. -/
theorem weight_lt (k : Value) (h : kept layers ≠ []) :
    weight (valuesAt k (kept layers)) < weight layers := by
  obtain ⟨before, hbefore⟩ : behind layers <:+ layers := List.rtakeWhile_suffix _ layers
  have hsum := congrArg weight hbefore
  rw [weight_append] at hsum
  have hle := weight_lookup_le k (behind layers)
  have hpos := List.length_pos_iff.2 h
  rw [kept] at hpos ⊢
  omega

/-- What layers come to: the mappings that count, joined key by key, or else the last solid layer. -/
def resolve (fades : Value → Bool) (layers : List Value) : Value :=
  if _h : kept layers = [] then ground fades layers
  else .map ((keysOf (kept layers)).map fun k =>
    (k, resolve fades (valuesAt k (kept layers))))
termination_by weight layers
decreasing_by exact weight_lt k ‹_›

variable {fades : Value → Bool}

theorem resolve_of_none (h : kept layers = []) : resolve fades layers = ground fades layers := by
  rw [resolve, dif_pos h]

/-- Mappings joined key by key. -/
def joined (fades : Value → Bool) (maps : List (List Entry)) : List Entry :=
  (keysOf maps).map fun k => (k, resolve fades (valuesAt k maps))

theorem resolve_of_kept (h : kept layers ≠ []) :
    resolve fades layers = .map (joined fades (kept layers)) := by
  rw [resolve, dif_neg h, joined]

theorem keys_joined (maps : List (List Entry)) : (joined fades maps).map Prod.fst = keysOf maps := by
  rw [joined, List.map_map]
  exact List.map_id _

theorem lookup_joined (k : Value) (maps : List (List Entry)) :
    lookup k (joined fades maps)
      = if valuesAt k maps = [] then none else some (resolve fades (valuesAt k maps)) := by
  have hsame : ∀ j, k.same j → resolve fades (valuesAt j maps) = resolve fades (valuesAt k maps) :=
    fun j hj => by rw [valuesAt, valuesAt, funext (lookup_congr hj)]
  rw [joined, lookup_map_keys (f := fun j => resolve fades (valuesAt j maps)) hsame]
  by_cases hnone : valuesAt k maps = []
  · rw [if_pos hnone, if_neg ((any_keysOf_iff k maps).not.2 (not_not.2 hnone))]
  · rw [if_neg hnone, if_pos ((any_keysOf_iff k maps).2 hnone)]

theorem laidOver_of_null (v : Value) : laidOver v null = v := by
  cases v with
  | scalar s => exact if_neg fun h => absurd h.2 (by decide)
  | _ => rfl

theorem laidOver_null (base : Value) : laidOver null base = if base.isNull then null else base := by
  rw [laidOver]
  cases base.isNull <;> rfl

/-- A solid layer counts alone. -/
theorem resolve_snoc_solid (hv : v.isSolid) (layers : List Value) :
    resolve fades (layers ++ [v]) = v := by
  have hbehind : behind (layers ++ [v]) = [] := by rw [behind_snoc, if_pos hv]
  rw [resolve_of_none (by rw [kept, hbehind]; rfl), ground, hbehind, List.filter_append,
    List.filter_cons_of_pos hv, List.filter_nil, List.getLast?_concat]
  simp

theorem kept_snoc_null (layers : List Value) : kept (layers ++ [null]) = kept layers := by
  rw [kept, behind_snoc, if_neg (by decide), List.filterMap_append, kept]
  exact List.append_nil _

theorem kept_snoc_map (layers : List Value) (es : List Entry) :
    kept (layers ++ [.map es]) = kept layers ++ [es] := by
  have hmap : ¬ (Value.map es).isSolid := Bool.false_ne_true
  rw [kept, behind_snoc, if_neg hmap, List.filterMap_append, kept]
  rfl

theorem ground_snoc_null (layers : List Value) :
    ground isNull (layers ++ [null]) = laidOver null (ground isNull layers) := by
  have hbehind : (behind (layers ++ [null])).isEmpty = false := by
    rw [behind_snoc, if_neg (by decide)]
    simp
  have hfilter : (layers ++ [null]).filter isSolid = layers.filter isSolid := by
    rw [List.filter_append]
    exact List.append_nil _
  rw [ground, ground, hfilter, hbehind, laidOver_null]
  cases (layers.filter isSolid).getLast? with
  | none => rfl
  | some v =>
    cases hv : v.isNull with
    | false => simp [hv]
    | true =>
      -- whether or not it has faded already, it is a null that gives way
      have hfaded : ∀ gone : Bool, (if v.isNull && gone then null else v).isNull = true := fun gone => by
        cases gone <;> simp only [hv, Bool.and_true, Bool.and_false, if_true] <;> first | rfl | exact hv
      exact (if_pos (by simp [hv])).trans (if_pos (hfaded _)).symm

theorem laidOver_ground (es : List Entry) (layers : List Value) :
    laidOver (.map es) (ground fades layers) = .map es := by
  rw [ground]
  cases hlast : (layers.filter isSolid).getLast? with
  | none => rfl
  | some v =>
    have hv : v.isSolid := (List.mem_filter.1 (List.mem_of_getLast? hlast)).2
    dsimp only
    split
    · rfl
    · cases v with
      | map _ => cases hv
      | _ => rfl

theorem entriesOver_nil (h : Apart (es.map Prod.fst)) : entriesOver es [] = es := by
  have hkeys : (entriesOver es []).map Prod.fst = es.map Prod.fst := by
    rw [keys_entriesOver h]
    simp
  refine entries_ext hkeys (hkeys ▸ h) fun k _ => ?_
  rw [lookup_entriesOver h]
  cases lookup k es <;> rfl

/-- A mapping behind others joins them. -/
theorem joined_snoc (h : Apart (es.map Prod.fst))
    (ih : ∀ e ∈ es, ∀ layers, resolve isNull (layers ++ [e.2]) = laidOver e.2 (resolve isNull layers))
    (maps : List (List Entry)) :
    joined isNull (maps ++ [es]) = entriesOver es (joined isNull maps) := by
  refine entries_ext ?_ ?_ fun k _ => ?_
  · rw [keys_entriesOver h, keys_joined, keys_joined, keysOf_append, List.flatMap_singleton,
      addKeys_of_apart h]
  · rw [keys_joined]
    exact apart_keysOf _
  · rw [lookup_entriesOver h, lookup_joined, lookup_joined, valuesAt_append]
    cases hk : lookup k es with
    | none =>
      have hnone : valuesAt k [es] = [] := List.filterMap_cons_none hk
      rw [hnone, List.append_nil]
    | some w =>
      have hone : valuesAt k [es] = [w] := List.filterMap_cons_some hk
      obtain ⟨e, he, -, rfl⟩ := exists_of_lookup hk
      rw [hone, if_neg (by simp), ih e he]
      by_cases hnone : valuesAt k maps = []
      · rw [if_pos hnone, hnone, resolve_of_none rfl]
        exact congrArg some (laidOver_of_null e.2)
      · rw [if_neg hnone]
        rfl

/-- One more layer is laid over what the others come to. -/
theorem resolve_snoc (hv : v.Lawful) (layers : List Value) :
    resolve isNull (layers ++ [v]) = laidOver v (resolve isNull layers) := by
  induction hv generalizing layers with
  | scalar s =>
    by_cases hs : s = .null
    · subst hs
      by_cases hkept : kept layers = []
      · rw [resolve_of_none (kept_snoc_null layers ▸ hkept), resolve_of_none hkept, ground_snoc_null]
      · rw [resolve_of_kept (kept_snoc_null layers ▸ hkept), kept_snoc_null, resolve_of_kept hkept]
        rfl
    · have hsolid : (Value.scalar s).isSolid := by cases s <;> first | rfl | exact absurd rfl hs
      rw [resolve_snoc_solid hsolid, laidOver, if_neg fun h => hs h.1]
  | list _ => exact resolve_snoc_solid rfl layers
  | tagged _ => exact resolve_snoc_solid rfl layers
  | map hapart _ _ _ ih =>
    rw [resolve_of_kept (by simp [kept_snoc_map]), kept_snoc_map, joined_snoc hapart ih]
    by_cases hkept : kept layers = []
    · rw [hkept, resolve_of_none hkept, laidOver_ground]
      exact congrArg _ (entriesOver_nil hapart)
    · rw [resolve_of_kept hkept, laidOver]

theorem merge_append (layers more : List Value) :
    merge (layers ++ more) = more.foldl (fun base top => laidOver top base) (merge layers) := by
  rw [merge, List.foldl_append, merge]

theorem merge_snoc (layers : List Value) (top : Value) :
    merge (layers ++ [top]) = laidOver top (merge layers) :=
  merge_append layers [top]

/-- Laying the layers over each other comes to what they come to. -/
theorem merge_eq_resolve (h : ∀ v ∈ layers, v.Lawful) :
    merge layers = resolve isNull (.map [] :: layers) := by
  induction layers using List.reverseRecOn with
  | nil =>
    rw [resolve_of_kept (by decide)]
    rfl
  | append_singleton layers v ih =>
    obtain ⟨hlayers, hv⟩ := List.forall_mem_append.1 h
    rw [merge_snoc, ih hlayers, ← List.cons_append, resolve_snoc (hv v (List.mem_singleton.2 rfl))]

/-- What comes before a solid layer has no say. -/
theorem resolve_append_solid (before : List Value) (h : layers.any isSolid) :
    resolve fades (before ++ layers) = resolve fades layers := by
  have hbehind : behind (before ++ layers) = behind layers := by rw [behind_append, if_pos h]
  have hground : ground fades (before ++ layers) = ground fades layers := by
    obtain ⟨v, hv, hsolid⟩ := List.any_eq_true.1 h
    have hsome : layers.filter isSolid ≠ [] := List.ne_nil_of_mem (List.mem_filter.2 ⟨hv, hsolid⟩)
    rw [ground, ground, hbehind, List.filter_append, List.getLast?_append,
      List.getLast?_eq_some_getLast hsome, Option.some_or]
  have hkept : kept (before ++ layers) = kept layers := by rw [kept, hbehind, kept]
  by_cases hnone : kept layers = []
  · rw [resolve_of_none (hkept ▸ hnone), resolve_of_none hnone, hground]
  · rw [resolve_of_kept (hkept ▸ hnone), resolve_of_kept hnone, hkept]

/-- Layers that come again change nothing. -/
theorem resolve_again (before layers : List Value) :
    resolve fades (before ++ layers ++ layers) = resolve fades (before ++ layers) := by
  induction hn : weight (before ++ layers) using Nat.strong_induction_on
    generalizing before layers with
  | _ n ih =>
    by_cases hsolid : layers.any isSolid
    · rw [resolve_append_solid _ hsolid, resolve_append_solid _ hsolid]
    · have honce : kept (before ++ layers) = kept before ++ layers.filterMap entries? := by
        rw [kept_append, if_neg hsolid]
      have htwice : kept (before ++ layers ++ layers)
          = kept (before ++ layers) ++ layers.filterMap entries? := by
        rw [kept_append, if_neg hsolid]
      by_cases hkept : kept (before ++ layers) = []
      · -- nothing but nulls behind the last solid layer
        have hnone : layers.filterMap entries? = [] := (List.append_eq_nil_iff.1 (honce ▸ hkept)).2
        have hfilter : layers.filter isSolid = [] := by
          rw [List.filter_eq_nil_iff]
          exact fun v hv hsome => hsolid (List.any_eq_true.2 ⟨v, hv, hsome⟩)
        rw [resolve_of_none hkept, resolve_of_none (by rw [htwice, hkept, hnone]; rfl),
          ground, ground, behind_append _ layers, behind_append, if_neg hsolid, if_neg hsolid]
        cases layers with
        | nil => simp
        | cons v layers => simp only [List.filter_append, hfilter, List.append_nil]; simp
      · have htwice' : kept (before ++ layers ++ layers) ≠ [] := by
          rw [htwice]
          exact List.append_ne_nil_of_left_ne_nil hkept _
        rw [resolve_of_kept hkept, resolve_of_kept htwice', joined, joined, htwice, honce,
          keysOf_again]
        refine congrArg _ (List.map_congr_left fun k _ => ?_)
        have hless := weight_lt k hkept
        rw [honce, valuesAt_append, hn] at hless
        rw [valuesAt_append, valuesAt_append, ih _ hless _ _ rfl]

/-- Layers that are all laid once more change nothing. -/
theorem merge_again (h : ∀ v ∈ layers, v.Lawful) : merge (layers ++ layers) = merge layers := by
  have htwice : ∀ v ∈ layers ++ layers, v.Lawful := List.forall_mem_append.2 ⟨h, h⟩
  rw [merge_eq_resolve htwice, merge_eq_resolve h]
  exact resolve_again [.map []] layers

end Waystation.Yaml.Value
