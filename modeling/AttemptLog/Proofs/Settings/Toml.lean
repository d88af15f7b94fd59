import AttemptLog.Proofs.Settings.Tree
/-!
No name of a settings file has two values.

A table that is being read has each name once (`Members.Once`), and each header and each assignment keeps it so.
Readers are followed by what they give (`Gives`): a value, a pair, the tables after a line. So the tables of a whole
file have each name once (`read?_once`).
-/
namespace AttemptLog

namespace Toml

/-! ## Tables that are being read -/

/-- no table in a node has two members of one name; of the tables of an array nothing is said, since they are not looked
into -/
inductive Node.Once : Node → Prop where
  | value {setting : Setting} (hsetting : setting.Once) : Once (.value setting)
  | table (origin : Origin) {members : Members} (hnames : (members.map (·.1)).Nodup)
    (hmembers : ∀ member ∈ members, Once member.2) : Once (.table origin members)
  | tables (all : List Members) : Once (.tables all)

/-- each name of a table stands once, and so it is in the tables below it -/
structure Members.Once (members : Members) : Prop where
  names : (members.map (·.1)).Nodup
  nodes : ∀ member ∈ members, member.2.Once

namespace Members

variable {members : Members} {name : String} {node : Node} {origin : Origin}

theorem once_nil : Members.Once [] := ⟨List.nodup_nil, fun _ h => absurd h List.not_mem_nil⟩

theorem Once.of_find? (h : members.Once) (hfind : members.find? name = some node) : node.Once := by
  obtain ⟨entry, hentry, rfl⟩ := Option.map_eq_some_iff.1 hfind
  exact h.nodes entry (List.mem_of_find?_eq_some hentry)

theorem Once.inner {inner : Members} (h : members.Once) (hfind : members.find? name = some (.table origin inner)) :
    inner.Once := by
  cases h.of_find? hfind with
  | table _ hnames hmembers => exact ⟨hnames, hmembers⟩

theorem Once.table (h : members.Once) : (Node.table origin members).Once := .table origin h.names h.nodes

theorem mem_put {entry : String × Node} (h : entry ∈ members.put name node) :
    entry = (name, node) ∨ entry ∈ members := by
  induction members with
  | nil => exact .inl (List.mem_singleton.1 h)
  | cons first members ih =>
    unfold put at h
    split_ifs at h
    · exact (List.mem_cons.1 h).imp_right (List.mem_cons_of_mem _)
    · rcases List.mem_cons.1 h with rfl | hrest
      · exact .inr List.mem_cons_self
      · exact (ih hrest).imp_right (List.mem_cons_of_mem _)

theorem nodup_put (h : (members.map (·.1)).Nodup) : ((members.put name node).map (·.1)).Nodup := by
  induction members with
  | nil => exact List.nodup_singleton _
  | cons first members ih =>
    obtain ⟨hfirst, hmembers⟩ := List.nodup_cons.1 h
    unfold put
    split_ifs with hname
    · exact hname ▸ h
    · refine List.nodup_cons.2 ⟨fun hmem => ?_, ih hmembers⟩
      obtain ⟨entry, hentry, hsame⟩ := List.mem_map.1 hmem
      rcases mem_put hentry with rfl | hold
      · exact hname hsame.symm
      · exact hfirst (hsame ▸ List.mem_map_of_mem hold)

theorem Once.put (h : members.Once) (hnode : node.Once) : (members.put name node).Once where
  names := nodup_put h.names
  nodes entry hentry := by
    rcases mem_put hentry with rfl | hold
    · exact hnode
    · exact h.nodes entry hold

theorem Once.under {change : Members → Option Members}
    (hchange : ∀ {members changed : Members}, members.Once → change members = some changed → changed.Once)
    {path : List String} {changed : Members} (h : members.Once) (hunder : members.under change path = some changed) :
    changed.Once := by
  induction path generalizing members changed with
  | nil => exact hchange h hunder
  | cons name path ih =>
    unfold Members.under at hunder
    split at hunder
    · obtain ⟨inner, hinner, rfl⟩ := Option.map_eq_some_iff.1 hunder
      exact h.put (ih once_nil hinner).table
    · next hfind =>
      obtain ⟨inner, hinner, rfl⟩ := Option.map_eq_some_iff.1 hunder
      exact h.put (ih (h.inner hfind) hinner).table
    · obtain ⟨last, -, rfl⟩ := Option.map_eq_some_iff.1 hunder
      exact h.put (.tables _)
    · cases hunder
    · cases hunder

theorem Once.assign {value : Setting} (hvalue : value.Once) {path : List String} {changed : Members} (h : members.Once)
    (hassign : members.assign value path = some changed) : changed.Once := by
  induction path generalizing members changed with
  | nil => cases hassign
  | cons name path ih =>
    cases path with
    | nil =>
      unfold Members.assign at hassign
      split_ifs at hassign
      cases hassign
      exact h.put (.value hvalue)
    | cons next path =>
      unfold Members.assign at hassign
      split at hassign
      · obtain ⟨inner, hinner, rfl⟩ := Option.map_eq_some_iff.1 hassign
        exact h.put (ih once_nil hinner).table
      · cases hassign
      · next hfind =>
        obtain ⟨inner, hinner, rfl⟩ := Option.map_eq_some_iff.1 hassign
        exact h.put (ih (h.inner hfind) hinner).table
      · split_ifs at hassign
        obtain ⟨last, -, rfl⟩ := Option.map_eq_some_iff.1 hassign
        exact h.put (.tables _)
      · cases hassign
      · cases hassign

theorem Once.beginTable {changed : Members} (h : members.Once) (hbegin : members.beginTable name = some changed) :
    changed.Once := by
  unfold Members.beginTable at hbegin
  split at hbegin
  · cases hbegin
    exact h.put once_nil.table
  · next hfind =>
    cases hbegin
    exact h.put (h.inner hfind).table
  · cases hbegin

theorem Once.beginItem {changed : Members} (h : members.Once) (hbegin : members.beginItem name = some changed) :
    changed.Once := by
  unfold Members.beginItem at hbegin
  split at hbegin
  · cases hbegin
    exact h.put (.tables _)
  · cases hbegin
    exact h.put (.tables _)
  · cases hbegin

end Members

theorem memberSettings_eq (members : Members) :
    memberSettings members = members.map fun member => (member.1, member.2.setting) := by
  induction members with
  | nil => rfl
  | cons member members ih => rw [memberSettings, ih, List.map_cons]

theorem Node.Once.setting {node : Node} (h : node.Once) : node.setting.Once := by
  induction h with
  | value hsetting => exact hsetting
  | @table origin members hnames _ ih =>
    rw [Node.setting, memberSettings_eq]
    refine .table (by rwa [List.map_map]) fun member hmember => ?_
    obtain ⟨entry, hentry, rfl⟩ := List.mem_map.1 hmember
    exact ih entry hentry
  | tables all => exact .array

theorem Members.Once.settings {members : Members} (h : members.Once) :
    (Setting.table (memberSettings members)).Once := by
  have hroot : (Node.table .header members).Once := h.table
  exact hroot.setting

/-! ## Readers -/

/-- whatever a reader gives has this property -/
def Gives {α : Type} (reader : Reader α) (property : α → Prop) : Prop :=
  ∀ chars value rest, reader chars = some (value, rest) → property value

section

variable {α β : Type} {reader : Reader α} {property : α → Prop}

theorem gives_true (reader : Reader α) : Gives reader fun _ => True := fun _ _ _ _ => trivial

theorem gives_refuse : Gives refuse property := by
  rintro chars value rest ⟨⟩

theorem gives_pure {value : α} (h : property value) : Gives (pure value) property := by
  rintro chars value rest ⟨⟩
  exact h

theorem Gives.bind {next : α → Reader β} {goal : β → Prop} (hreader : Gives reader property)
    (hnext : ∀ value, property value → Gives (next value) goal) : Gives (reader >>= next) goal := by
  intro chars value rest h
  obtain ⟨⟨first, left⟩, hfirst, hrest⟩ := Option.bind_eq_some_iff.1 h
  exact hnext first (hreader chars first left hfirst) left value rest hrest

theorem gives_after {next : α → Reader β} {goal : β → Prop} (hnext : ∀ value, Gives (next value) goal) :
    Gives (reader >>= next) goal := (gives_true reader).bind fun value _ => hnext value

theorem gives_fueled {reader : Nat → Reader α} (h : ∀ fuel, Gives (reader fuel) property) :
    Gives (fueled reader) property := fun chars value rest hread => h (chars.length + 1) chars value rest hread

end

theorem once_of_integer? {value : Int} {setting : Setting} (h : integer? value = some setting) : setting.Once := by
  unfold integer? at h
  split_ifs at h
  cases h
  exact .integer value

theorem once_of_unsigned? {isNegative : Bool} {chars : List Char} {setting : Setting}
    (h : unsigned? isNegative chars = some setting) : setting.Once := by
  unfold unsigned? at h
  split_ifs at h
  · cases h
    exact .fraction _
  · cases h
    exact .fraction _
  · exact once_of_integer? h
  · exact once_of_integer? h
  · obtain ⟨number, -, rfl⟩ := Option.map_eq_some_iff.1 h
    exact .fraction number

theorem once_of_radix? {base : Nat} {isIn : Char → Bool} {digits : List Char} {setting : Setting}
    (h : radix? base isIn digits = some setting) : setting.Once := by
  unfold radix? at h
  split_ifs at h
  exact once_of_integer? h

theorem once_of_number? {chars : List Char} {setting : Setting} (h : number? chars = some setting) : setting.Once := by
  unfold number? at h
  split at h
  · exact once_of_unsigned? h
  · exact once_of_unsigned? h
  · exact once_of_radix? h
  · exact once_of_radix? h
  · exact once_of_radix? h
  · exact once_of_unsigned? h

theorem once_of_atom {atom : List Char} {setting : Setting}
    (h : ((moment? atom).map Setting.text <|> number? atom) = some setting) : setting.Once := by
  cases hmoment : moment? atom with
  | some time =>
    rw [hmoment] at h
    cases h
    exact .text time
  | none =>
    rw [hmoment] at h
    exact once_of_number? h

theorem readAtom_once : Gives readAtom Setting.Once := by
  unfold readAtom
  refine gives_after fun atom => gives_after fun rest => ?_
  extract_lets whole
  have hwhole : ∀ atom, Gives (whole atom) Setting.Once := by
    intro atom
    unfold whole
    split
    · next setting hsetting => exact gives_pure (once_of_atom hsetting)
    · exact gives_refuse
  split
  · split_ifs
    · exact gives_after fun _ => gives_after fun time => gives_after hwhole
    · exact gives_after hwhole
  · exact gives_after hwhole

theorem readScalar_once : Gives readValue.readScalar Setting.Once := by
  unfold readValue.readScalar
  refine gives_after fun c => ?_
  split
  · exact gives_after fun text => gives_pure (.text text)
  · exact gives_after fun text => gives_pure (.text text)
  · exact gives_after fun _ => gives_pure (.truth true)
  · exact gives_after fun _ => gives_pure (.truth false)
  · exact readAtom_once

theorem readItems_once (item : Reader Setting) (fuel : Nat) : Gives (readItems item fuel) Setting.Once := by
  induction fuel with
  | zero => exact gives_refuse
  | succ fuel ih =>
    unfold readItems
    refine gives_after fun _ => gives_after fun isEnd => ?_
    split_ifs
    · exact gives_pure .array
    · refine gives_after fun _ => gives_after fun _ => gives_after fun hasNext => ?_
      split_ifs
      · exact ih
      · exact gives_after fun _ => gives_pure .array

theorem readPair_once {gap : Reader Unit} {value : Reader Setting} (hvalue : Gives value Setting.Once) :
    Gives (readPair gap value) fun pair => pair.2.Once := by
  unfold readPair
  refine gives_after fun path => gives_after fun _ => gives_after fun _ => gives_after fun _ => ?_
  exact hvalue.bind fun setting hsetting => gives_pure hsetting

theorem readInline_once {value : Reader Setting} (hvalue : Gives value Setting.Once) (fuel : Nat) {members : Members}
    (h : members.Once) : Gives (readInline value fuel members) Setting.Once := by
  induction fuel generalizing members with
  | zero => exact gives_refuse
  | succ fuel ih =>
    unfold readInline
    refine gives_after fun _ => gives_after fun isEnd => ?_
    split_ifs
    · exact gives_pure h.settings
    · refine (readPair_once hvalue).bind fun ⟨path, setting⟩ hsetting => ?_
      dsimp only
      split
      · exact gives_refuse
      · next changed hassign =>
        have hchanged := h.assign hsetting hassign
        refine gives_after fun _ => gives_after fun hasNext => ?_
        split_ifs
        · exact ih hchanged
        · exact gives_after fun _ => gives_pure hchanged.settings

theorem readValue_once (depth : Nat) : Gives (readValue depth) Setting.Once := by
  induction depth with
  | zero =>
    unfold readValue
    refine gives_after fun c => ?_
    split
    · exact gives_refuse
    · exact gives_refuse
    · exact readScalar_once
  | succ depth ih =>
    unfold readValue
    refine gives_after fun c => ?_
    split
    · exact gives_after fun _ => gives_fueled (readItems_once (readValue depth))
    · exact gives_after fun _ => gives_fueled fun fuel => readInline_once ih fuel Members.once_nil
    · exact readScalar_once

/-! ## Files -/

variable {file : File}

theorem begin_once (isItem : Bool) {name : String} {members changed : Members} (h : members.Once)
    (hbegin : (if isItem then Members.beginItem name else Members.beginTable name) members = some changed) :
    changed.Once := by
  cases isItem with
  | true => exact h.beginItem hbegin
  | false => exact h.beginTable hbegin

theorem readHeader_once (h : file.root.Once) : Gives (readHeader file) fun file => file.root.Once := by
  unfold readHeader
  refine gives_after fun isItem => ?_
  extract_lets named
  have hnamed : ∀ value, Gives (named value) fun file => file.root.Once := by
    intro value
    refine gives_after fun path => gives_after fun _ => ?_
    dsimp only
    split
    · exact gives_refuse
    · next root hroot => exact gives_pure (h.under (begin_once isItem) hroot)
  cases isItem with
  | true => exact hnamed ()
  | false => exact gives_after hnamed

theorem readAssignment_once (h : file.root.Once) : Gives (readAssignment file) fun file => file.root.Once := by
  unfold readAssignment
  refine (readPair_once (readValue_once maxDepth)).bind fun ⟨path, value⟩ hvalue => ?_
  dsimp only
  split
  · exact gives_refuse
  · next root hroot => exact gives_pure (h.under (fun hmembers => hmembers.assign hvalue) hroot)

theorem readLines_once (fuel : Nat) (h : file.root.Once) : Gives (readLines fuel file) fun file => file.root.Once := by
  induction fuel generalizing file with
  | zero => exact gives_refuse
  | succ fuel ih =>
    unfold readLines
    refine gives_after fun _ => gives_after fun c => ?_
    split
    · exact gives_pure h
    · extract_lets ended
      have hended : ∀ file : File, file.root.Once → Gives (ended file) fun file => file.root.Once := by
        intro file h
        refine gives_after fun _ => gives_after fun _ => gives_after fun isLine => ?_
        split_ifs
        · exact ih h
        · refine gives_after fun c => ?_
          split_ifs
          · exact gives_pure h
          · exact gives_refuse
      split_ifs
      · exact (readHeader_once h).bind hended
      · exact (readAssignment_once h).bind hended

/-- **No name of a settings file has two values.** -/
theorem read?_once {text : String} {members : List (String × Setting)} (h : read? text = some members) :
    (Setting.table members).Once := by
  obtain ⟨⟨file, rest⟩, hfile, rfl⟩ := Option.map_eq_some_iff.1 h
  exact (readLines_once _ Members.once_nil _ _ _ hfile).settings

end Toml

end AttemptLog
