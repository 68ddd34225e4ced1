import FunctionalSize.Proofs.RuleTable

set_option autoImplicit false

namespace FunctionalSize

namespace Text

/-- An occurrence that begins earlier ends before the last character of this one. -/
theorem prefix_cons_append_iff (c : Char) (pat before after : List Char) :
    pat <+: c :: (before ++ pat ++ after) ↔ pat <+: c :: (before ++ pat.dropLast) := by
  have hwithin : c :: (before ++ pat.dropLast) <+: c :: (before ++ pat ++ after) := by
    rw [List.cons_prefix_cons, List.append_assoc, List.prefix_append_right_inj]
    exact ⟨rfl, (List.dropLast_prefix pat).trans (List.prefix_append pat after)⟩
  constructor
  · intro h
    apply List.prefix_of_prefix_length_le h hwithin
    simp only [List.length_append, List.length_cons, List.length_dropLast]
    omega
  · exact fun h => h.trans hwithin

variable {pat before after : List Char}

theorem not_infix_of_splitFirst? {s : List Char} (hpat : pat ≠ [])
    (h : splitFirst? pat s = some (before, after)) : ¬ pat <:+: before ++ pat.dropLast := by
  induction s generalizing before with
  | nil => simp [splitFirst?, hpat] at h
  | cons c s ih =>
    rw [splitFirst?] at h
    split at h
    · obtain ⟨rfl, -⟩ := Prod.mk.inj (Option.some.inj h)
      intro hinfix
      have hlength := hinfix.length_le
      have := List.length_pos_iff.2 hpat
      simp only [List.nil_append, List.length_dropLast] at hlength
      omega
    · next hstart =>
      obtain ⟨⟨b, a⟩, hcut, he⟩ := Option.map_eq_some_iff.1 h
      obtain ⟨rfl, rfl⟩ := Prod.mk.inj he
      rw [List.isPrefixOf_iff_prefix, splitFirst?_append hcut, prefix_cons_append_iff] at hstart
      rw [List.cons_append, List.infix_cons_iff, not_or]
      exact ⟨hstart, ih hcut⟩

theorem splitFirst?_of_not_infix (hpat : pat ≠ []) (h : ¬ pat <:+: before ++ pat.dropLast) :
    splitFirst? pat (before ++ pat ++ after) = some (before, after) := by
  induction before with
  | nil =>
    obtain ⟨c, rest, rfl⟩ := List.exists_cons_of_ne_nil hpat
    have hstart : (c :: rest).isPrefixOf (c :: (rest ++ after)) = true :=
      List.isPrefixOf_iff_prefix.2 (List.prefix_append (c :: rest) after)
    rw [List.nil_append, List.cons_append, splitFirst?, if_pos hstart]
    simp
  | cons c before ih =>
    rw [List.cons_append, List.infix_cons_iff, not_or] at h
    obtain ⟨hstart, hrest⟩ := h
    rw [← prefix_cons_append_iff c pat before after, ← List.isPrefixOf_iff_prefix] at hstart
    rw [List.cons_append, List.cons_append, splitFirst?, if_neg hstart, ih hrest, Option.map_some]

theorem splitFirst?_eq_some_iff {s : List Char} (hpat : pat ≠ []) :
    splitFirst? pat s = some (before, after) ↔
      s = before ++ pat ++ after ∧ ¬ pat <:+: before ++ pat.dropLast := by
  constructor
  · exact fun h => ⟨splitFirst?_append h, not_infix_of_splitFirst? hpat h⟩
  · rintro ⟨rfl, h⟩
    exact splitFirst?_of_not_infix hpat h

end Text

namespace RoutineId

theorem splitName?_eq_some_iff {name receiver bare : List Char} :
    splitName? name = some (receiver, bare) ↔
      name = '(' :: (receiver ++ [')', '.'] ++ bare) ∧ ¬ [')', '.'] <:+: receiver ++ [')'] := by
  unfold splitName?
  split
  · next rest =>
    rw [Text.splitFirst?_eq_some_iff (by simp), List.cons.injEq, and_iff_right rfl]
    rfl
  · next hname =>
    simp only [reduceCtorEq, false_iff, not_and]
    exact fun h => absurd h (hname _)

theorem exists_splitName?_iff {name : List Char} :
    (∃ cut, splitName? name = some cut) ↔ ['('] <+: name ∧ [')', '.'] <:+: name := by
  constructor
  · rintro ⟨⟨receiver, bare⟩, hcut⟩
    rw [(splitName?_eq_some_iff.1 hcut).1]
    exact ⟨⟨_, rfl⟩, '(' :: receiver, bare, rfl⟩
  · rintro ⟨⟨rest, rfl⟩, hclose⟩
    apply Text.exists_splitFirst?
    rcases List.infix_cons_iff.1 hclose with hstart | hrest
    · simp at hstart
    · exact hrest

theorem infix_concat_iff {receiver : List Char} :
    [')', '.'] <:+: receiver ++ [')'] ↔ [')', '.'] <:+: receiver := by
  have hend : ¬ [')', '.'] <:+ receiver ++ [')'] := by
    rw [← List.reverse_prefix]
    simp
  rw [List.infix_concat_iff, or_iff_right hend]

theorem splitName?_of_splitFirst? {name before bare : List Char} (hstart : ['('] <+: name)
    (h : Text.splitFirst? [')', '.'] name = some (before, bare)) :
    ∃ receiver, splitName? name = some (receiver, bare) := by
  obtain ⟨rest, rfl⟩ := hstart
  obtain ⟨hname, hfirst⟩ := (Text.splitFirst?_eq_some_iff (by simp)).1 h
  cases before with
  | nil => simp at hname
  | cons c receiver =>
    obtain ⟨rfl, rfl⟩ := List.cons.inj hname
    refine ⟨receiver, splitName?_eq_some_iff.2 ⟨rfl, ?_⟩⟩
    exact fun hinfix => hfirst (List.infix_cons hinfix)

/-- No `).` begins with the parenthesis that opens the name. -/
theorem splitFirst?_of_splitName? {name receiver bare : List Char}
    (h : splitName? name = some (receiver, bare)) :
    Text.splitFirst? [')', '.'] name = some ('(' :: receiver, bare) := by
  obtain ⟨rfl, hfirst⟩ := splitName?_eq_some_iff.1 h
  refine (Text.splitFirst?_eq_some_iff (by simp)).2 ⟨rfl, ?_⟩
  change ¬ [')', '.'] <:+: '(' :: (receiver ++ [')'])
  rw [List.infix_cons_iff, not_or]
  exact ⟨by simp, hfirst⟩

section Names

variable {id : RoutineId} {bare : List Char}

theorem bareName_of_splitFirst? {before : List Char} (hstart : ['('] <+: id.name.toList)
    (h : Text.splitFirst? [')', '.'] id.name.toList = some (before, bare)) :
    id.bareName = String.ofList bare := by
  rw [bareName, h]
  exact if_pos (List.isPrefixOf_iff_prefix.2 hstart)

theorem receiver?_bareName_of_split {receiver : List Char}
    (h : splitName? id.name.toList = some (receiver, bare)) :
    id.receiver? = some (String.ofList receiver) ∧ id.bareName = String.ofList bare := by
  have hstart : ['('] <+: id.name.toList := by
    rw [(splitName?_eq_some_iff.1 h).1]
    exact ⟨_, rfl⟩
  refine ⟨?_, bareName_of_splitFirst? hstart (splitFirst?_of_splitName? h)⟩
  rw [receiver?, h, Option.map_some]

theorem bareName_of_receiver?_eq_none (h : id.receiver? = none) : id.bareName = id.name := by
  have hsplit := Option.map_eq_none_iff.1 h
  unfold bareName
  split
  · next cut hcut =>
    apply if_neg
    intro hstart
    obtain ⟨receiver, hsome⟩ := splitName?_of_splitFirst? (List.isPrefixOf_iff_prefix.1 hstart) hcut
    rw [hsplit] at hsome
    contradiction
  · rfl

end Names

/-- A name has a receiver exactly when it begins with a parenthesis and holds a `).`, and the first
`).` ends the receiver and begins the bare name. Other names are bare as a whole. A receiver without
`).` and any bare name are read back from the name that they make up. -/
theorem receiver?_bareName_exact (id : RoutineId) :
    ((∃ receiver, id.receiver? = some receiver) ↔
      "(".toList <+: id.name.toList ∧ ").".toList <:+: id.name.toList) ∧
    (∀ receiver, id.receiver? = some receiver →
      id.name = "(" ++ receiver ++ ")." ++ id.bareName ∧
        ¬ ").".toList <:+: (receiver ++ ")").toList) ∧
    (id.receiver? = none → id.bareName = id.name) ∧
    (∀ before bare, "(".toList <+: id.name.toList →
      Text.splitFirst? ").".toList id.name.toList = some (before, bare) →
        id.bareName = String.ofList bare) ∧
    (∀ package receiver bare : String, ¬ ").".toList <:+: receiver.toList →
      receiver? ⟨package, "(" ++ receiver ++ ")." ++ bare⟩ = some receiver ∧
        bareName ⟨package, "(" ++ receiver ++ ")." ++ bare⟩ = bare) := by
  refine ⟨?_, ?_, ?_, ?_, ?_⟩
  · rw [← Option.isSome_iff_exists, receiver?, Option.isSome_map, Option.isSome_iff_exists]
    exact exists_splitName?_iff
  · intro receiver hreceiver
    obtain ⟨⟨front, bare⟩, hcut, rfl⟩ := Option.map_eq_some_iff.1 hreceiver
    obtain ⟨hname, hfirst⟩ := splitName?_eq_some_iff.1 hcut
    rw [(receiver?_bareName_of_split hcut).2]
    constructor
    · apply String.toList_injective
      simp [hname]
    · simpa using hfirst
  · exact bareName_of_receiver?_eq_none
  · intro before bare hstart hcut
    exact bareName_of_splitFirst? hstart hcut
  · intro package receiver bare hreceiver
    let made : RoutineId := ⟨package, "(" ++ receiver ++ ")." ++ bare⟩
    have hsplit : splitName? made.name.toList = some (receiver.toList, bare.toList) := by
      rw [splitName?_eq_some_iff, infix_concat_iff]
      exact ⟨by simp [made], hreceiver⟩
    have hmade := receiver?_bareName_of_split hsplit
    rwa [String.ofList_toList, String.ofList_toList] at hmade

def nested : RoutineId := ⟨"net", "(*Pool(a)).(b)).Get(x).y"⟩

theorem receiver?_bareName_exact_nested :
    nested.receiver? = some "*Pool(a)" ∧ nested.bareName = "(b)).Get(x).y" ∧
    nested.name = "(" ++ "*Pool(a)" ++ ")." ++ nested.bareName ∧
    ¬ ").".toList <:+: ("*Pool(a)" ++ ")").toList ∧
    receiver? ⟨"net", "Get(x).y"⟩ = none ∧ bareName ⟨"net", "Get(x).y"⟩ = "Get(x).y" ∧
    receiver? ⟨"net", "(" ++ "a)" ++ ")." ++ ").b"⟩ = some "a)" ∧
    bareName ⟨"net", "(" ++ "a)" ++ ")." ++ ").b"⟩ = ").b" := by
  have hreceiver : nested.receiver? = some "*Pool(a)" := by decide +kernel
  have hplain : receiver? ⟨"net", "Get(x).y"⟩ = none := by decide +kernel
  obtain ⟨-, hsplit, -, hsearch, hmake⟩ := receiver?_bareName_exact nested
  obtain ⟨-, -, hwhole, -⟩ := receiver?_bareName_exact ⟨"net", "Get(x).y"⟩
  obtain ⟨hname, hfirst⟩ := hsplit "*Pool(a)" hreceiver
  obtain ⟨hmade, hrest⟩ := hmake "net" "a)" ").b" (by decide)
  refine ⟨hreceiver, ?_, hname, hfirst, hplain, hwhole hplain, hmade, hrest⟩
  exact hsearch "(*Pool(a)".toList "(b)).Get(x).y".toList (by decide) (by decide +kernel)

end RoutineId

end FunctionalSize
