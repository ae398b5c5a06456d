import Waystation.Proofs.Yaml.Layers
/-!
What becomes of single values when layers are laid over each other. A path names a value by the keys
of the mappings around it.
-/
namespace Waystation.Yaml.Value

variable {v top base : Value} {es bs : List Entry} {path : List Value}

/-- The value at a path. -/
def at? : Value → List Value → Option Value
  | v, [] => some v
  | .map es, k :: path => (lookup k es).bind fun v => at? v path
  | _, _ :: _ => none

theorem exists_of_at?_cons {k : Value} (h : v.at? (k :: path) = some base) :
    ∃ es w, v = .map es ∧ lookup k es = some w ∧ w.at? path = some base := by
  cases v with
  | map es =>
    obtain ⟨w, hw, hpath⟩ := Option.bind_eq_some_iff.1 h
    exact ⟨es, w, rfl, hw, hpath⟩
  | _ => cases h

theorem at?_map {k w : Value} (h : lookup k es = some w) :
    (Value.map es).at? (k :: path) = w.at? path := by
  rw [at?, h, Option.bind_some]

/-- A null leaves a value in place, unless that is a null with a tag. -/
theorem at?_null_laidOver (htop : top.Lawful) (hnull : top.at? path = some null)
    (hv : base.at? path = some v) (hsome : v.isNull = false) :
    (laidOver top base).at? path = some v := by
  induction path generalizing top base with
  | nil =>
    obtain rfl := Option.some.inj hnull
    obtain rfl := Option.some.inj hv
    rw [laidOver_null, hsome]
    rfl
  | cons k path ih =>
    obtain ⟨es, t, rfl, ht, htnull⟩ := exists_of_at?_cons hnull
    obtain ⟨bs, b, rfl, hb, hbv⟩ := exists_of_at?_cons hv
    have hover : lookup k (entriesOver es bs) = some (laidOver t b) := by
      rw [lookup_entriesOver (apart_of_lawful htop), ht, hb]
      rfl
    rw [laidOver, at?_map hover]
    exact ih (lawful_of_lookup htop ht) htnull hbv

/-- Whatever a layer gives a value to has one once it is laid over others. -/
theorem at?_laidOver_top (htop : top.Lawful) (h : (top.at? path).isSome) (base : Value) :
    ((laidOver top base).at? path).isSome := by
  induction path generalizing top base with
  | nil => rfl
  | cons k path ih =>
    obtain ⟨w, hw⟩ := Option.isSome_iff_exists.1 h
    obtain ⟨es, t, rfl, ht, htw⟩ := exists_of_at?_cons hw
    cases base with
    | map bs =>
      have hover : lookup k (entriesOver es bs) = some ((lookup k bs).elim t (laidOver t)) := by
        rw [lookup_entriesOver (apart_of_lawful htop), ht]
      rw [laidOver, at?_map hover]
      cases lookup k bs with
      | none => exact Option.isSome_of_eq_some htw
      | some b => exact ih (lawful_of_lookup htop ht) (Option.isSome_of_eq_some htw) b
    | _ => exact h

/-- What has a value keeps one as long as no layer puts anything but a mapping or a null in the place
of a mapping around it. -/
theorem at?_laidOver_base (htop : top.Lawful) (h : (base.at? path).isSome)
    (habove : ∀ above, above <+: path → above ≠ path → ∀ w, top.at? above = some w →
      w.isSolid = false) :
    ((laidOver top base).at? path).isSome := by
  induction path generalizing top base with
  | nil => rfl
  | cons k path ih =>
    obtain ⟨v, hv⟩ := Option.isSome_iff_exists.1 h
    obtain ⟨bs, b, rfl, hb, hbv⟩ := exists_of_at?_cons hv
    have hhere := habove [] List.nil_prefix (List.cons_ne_nil k path).symm top rfl
    cases top with
    | map es =>
      have hover : lookup k (entriesOver es bs)
          = some ((lookup k es).elim b fun t => laidOver t b) := by
        rw [lookup_entriesOver (apart_of_lawful htop), hb]
        cases lookup k es <;> rfl
      rw [laidOver, at?_map hover]
      cases ht : lookup k es with
      | none => exact Option.isSome_of_eq_some hbv
      | some t =>
        refine ih (lawful_of_lookup htop ht) (Option.isSome_of_eq_some hbv)
          fun above hprefix hne w hw => ?_
        refine habove (k :: above) ((List.prefix_cons_inj k).2 hprefix) ?_ w ((at?_map ht).trans hw)
        exact fun heq => hne (List.cons.inj heq).2
    | scalar s =>
      have hs : s = .null := by
        cases s with
        | null => rfl
        | _ => cases hhere
      rw [hs, laidOver_null]
      exact h
    | _ => cases hhere

theorem at?_foldl_laidOver {later : List Value} (hlater : ∀ top ∈ later, top.Lawful)
    (h : (base.at? path).isSome)
    (habove : ∀ top ∈ later, ∀ above, above <+: path → above ≠ path → ∀ w, top.at? above = some w →
      w.isSolid = false) :
    ((later.foldl (fun base top => laidOver top base) base).at? path).isSome := by
  induction later generalizing base with
  | nil => exact h
  | cons top later ih =>
    obtain ⟨hlawful, hrest⟩ := List.forall_mem_cons.1 hlater
    obtain ⟨hhere, hthere⟩ := List.forall_mem_cons.1 habove
    exact ih hrest (at?_laidOver_base hlawful h hhere) hthere

/-- Layers laid over each other come to what they come to with an empty mapping below them; to lay
them all once more changes nothing. A null leaves what is below it, unless that is a null with a tag;
and what a layer gives a value to has one in the end, unless a later layer puts anything but a mapping
or a null in the place of a mapping around it. -/
theorem merge_layers (layers : List Value) (h : ∀ v ∈ layers, v.Lawful) :
    merge layers = resolve isNull (.map [] :: layers)
    ∧ merge (layers ++ layers) = merge layers
    ∧ (∀ earlier top later path v, layers = earlier ++ top :: later →
        (merge earlier).at? path = some v → v.isNull = false → top.at? path = some null →
        (merge (earlier ++ [top])).at? path = some v)
    ∧ ∀ earlier low later path, layers = earlier ++ low :: later → (low.at? path).isSome →
        (∀ top ∈ later, ∀ above, above <+: path → above ≠ path → ∀ w, top.at? above = some w →
          w.isSolid = false) →
        ((merge layers).at? path).isSome := by
  refine ⟨merge_eq_resolve h, merge_again h, ?_, ?_⟩
  · rintro earlier top later path v rfl hv hsome hnull
    rw [merge_snoc]
    exact at?_null_laidOver (h top (by simp)) hnull hv hsome
  · rintro earlier low later path rfl hlow habove
    obtain ⟨-, hrest⟩ := List.forall_mem_append.1 h
    obtain ⟨hlawful, hlater⟩ := List.forall_mem_cons.1 hrest
    rw [merge_append, List.foldl_cons]
    exact at?_foldl_laidOver hlater (at?_laidOver_top hlawful hlow (merge earlier)) habove

theorem merge_layers_null :
    let low := Value.map [(text "a", text "x"), (text "b", null)]
    let top := Value.map [(text "b", text "y"), (text "a", null)]
    merge [low, top] = .map [(text "a", text "x"), (text "b", text "y")]
    ∧ merge [low, top] = resolve isNull [.map [], low, top]
    ∧ merge [low, top, low, top] = merge [low, top] := by
  intro low top
  have hlawful : ∀ v ∈ [low, top], v.Lawful := by
    refine List.forall_mem_cons.2 ⟨.map ?_ ?_ ?_, List.forall_mem_singleton.2 (.map ?_ ?_ ?_)⟩
    all_goals simp [Apart, same, Scalar.same, Lawful.scalar]
  obtain ⟨hresolve, htwice, -⟩ := merge_layers [low, top] hlawful
  exact ⟨rfl, hresolve, htwice⟩

/-- A null with a tag gives way to a null without one. It is no null to be passed over, either. -/
theorem merge_tagged_null :
    let low := Value.map [(text "a", tagged "t" null)]
    let top := Value.map [(text "a", null)]
    ¬ (merge [low, top]).same (resolve (fun _ => false) [.map [], low, top])
    ∧ merge [.map [(text "a", text "x")], low] = low := by
  intro low top
  have hmaps : kept [.map [], low, top] = [[], [(text "a", tagged "t" null)], [(text "a", null)]] := rfl
  have hvalues : valuesAt (text "a") (kept [.map [], low, top]) = [tagged "t" null, null] := rfl
  have hresolve : resolve (fun _ => false) [.map [], low, top] = low := by
    rw [resolve_of_kept (by rw [hmaps]; exact List.cons_ne_nil _ _), joined]
    have hkeys : keysOf (kept [.map [], low, top]) = [text "a"] := rfl
    rw [hkeys, List.map_singleton, hvalues, resolve_of_none rfl]
    rfl
  rw [hresolve]
  exact ⟨by decide, rfl⟩

end Waystation.Yaml.Value
