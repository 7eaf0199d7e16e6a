import Mathlib.Data.List.Forall2
import NodeFit.Proofs.Command.Eval
import NodeFit.Proofs.Dictionary

/-!
# NodeFit.Proofs.Command.Selector

Which nodes the arguments of a label selector choose.

An argument gives a key a value (`LabelSelector.Gives`), and the last argument for a key decides
(`LabelSelector.get?_parse`).  So all arguments count exactly if no two of them give one key
different values (`LabelSelector.select_parse`).

The node that carries what a selector asks for and nothing else (`LabelSelector.ownNode`) is what
the converse rests on: if all arguments count for it, they agree.  Where they do not,
`LabelSelector.select_not_answers` shows a node that is chosen although it lacks the label of an
argument.
-/

namespace NodeFit

namespace LabelSelector

/-! ## Arguments -/

/-- The text gives the key the value: the two stand on either side of its first equals sign. -/
def Gives (text key value : String) : Prop :=
  text = key ++ "=" ++ value ∧ '=' ∉ key.toList

/-- A text gives a key a value when it is the key, an equals sign and the value, and there is no
equals sign in the key. -/
theorem gives_iff {text key value : String} :
    Gives text key value ↔
      text.toList = key.toList ++ '=' :: value.toList ∧ '=' ∉ key.toList := by
  rw [Gives, ← String.toList_inj, String.toList_append, String.toList_append, List.append_assoc]
  rfl

/-- An argument is read as the label that it gives. -/
theorem label?_eq_some_iff {text key value : String} :
    label? text = some (key, value) ↔ Gives text key value := by
  rw [gives_iff]
  constructor
  · intro h
    simp only [label?] at h
    split at h
    · contradiction
    · next c rest hdrop =>
      obtain ⟨rfl, rfl⟩ := Prod.mk.inj (Option.some.inj h)
      obtain rfl : c = '=' := by
        have := List.head?_dropWhile_not (· != '=') text.toList
        rw [hdrop] at this
        simpa using this
      rw [String.toList_ofList, String.toList_ofList, ← hdrop, List.takeWhile_append_dropWhile]
      refine ⟨rfl, fun hmem => ?_⟩
      have hne := List.all_eq_true.1 List.all_takeWhile _ hmem
      exact absurd rfl (bne_iff_ne.1 hne)
  · intro ⟨htext, hkey⟩
    have hall : ∀ c ∈ key.toList, (c != '=') = true := fun c hc =>
      bne_iff_ne.2 fun h => hkey (h ▸ hc)
    simp only [label?]
    rw [htext, List.takeWhile_append_of_pos hall, List.dropWhile_append_of_pos hall]
    simp

/-- A text gives one key one value. -/
theorem Gives.label_eq {text key value : String} {label : String × String}
    (h : Gives text key value) (h' : Gives text label.1 label.2) : label = (key, value) := by
  rw [← label?_eq_some_iff] at h h'
  exact Option.some.inj (h'.symm.trans h)

/-- The labels are what the texts give, one for each. -/
abbrev GiveAll : List String → List (String × String) → Prop :=
  List.Forall₂ fun text label => Gives text label.1 label.2

/-- Arguments are read when each of them gives a label. -/
theorem labelsOf_eq_ok_iff {texts : List String} {labels : List (String × String)} :
    labelsOf texts = .ok labels ↔ GiveAll texts labels := by
  induction texts generalizing labels with
  | nil =>
      rw [labelsOf, Except.ok.injEq, GiveAll, List.forall₂_nil_left_iff]
      exact eq_comm
  | cons text rest ih =>
      rw [labelsOf, GiveAll, List.forall₂_cons_left_iff]
      cases h : label? text with
      | none =>
          refine ⟨fun herror => (nomatch herror), fun ⟨label, _, hgives, _⟩ => ?_⟩
          rw [← label?_eq_some_iff, h] at hgives
          contradiction
      | some label =>
          simp only [map_eq_ok_iff, ih]
          constructor
          · intro ⟨others, hothers, hlabels⟩
            exact ⟨label, others, label?_eq_some_iff.1 h, hothers, hlabels.symm⟩
          · intro ⟨label', others, hgives, hothers, hlabels⟩
            rw [← label?_eq_some_iff, h, Option.some.injEq] at hgives
            exact ⟨others, hothers, hgives ▸ hlabels.symm⟩

/-! ## The last argument for a key -/

/-- Of some texts, the last one that gives the key a value gives it this one. -/
inductive LastGives : List String → String → String → Prop where
  | here {text : String} {rest : List String} {key value : String} :
      Gives text key value → (∀ later ∈ rest, ∀ other, ¬Gives later key other) →
      LastGives (text :: rest) key value
  | later {text : String} {rest : List String} {key value : String} :
      LastGives rest key value → LastGives (text :: rest) key value

section

variable {texts : List String} {labels : List (String × String)} {key value : String}

/-- The last text for a key is one of the texts that give it the value. -/
theorem LastGives.exists_gives (h : LastGives texts key value) :
    ∃ text ∈ texts, Gives text key value := by
  induction h with
  | here hgives _ => exact ⟨_, List.mem_cons_self, hgives⟩
  | later _ ih =>
      obtain ⟨text, hmem, hgives⟩ := ih
      exact ⟨text, List.mem_cons_of_mem _ hmem, hgives⟩

/-- A key that some text gives a value has a last one that does. -/
theorem exists_lastGives {text : String} (hmem : text ∈ texts) (h : Gives text key value) :
    ∃ last, LastGives texts key last := by
  induction texts generalizing text value with
  | nil => contradiction
  | cons first rest ih =>
      by_cases hlater : ∃ later ∈ rest, ∃ other, Gives later key other
      · obtain ⟨later, hlatermem, other, hother⟩ := hlater
        obtain ⟨last, hlast⟩ := ih hlatermem hother
        exact ⟨last, .later hlast⟩
      · simp only [not_exists, not_and] at hlater
        obtain rfl | hrest := List.mem_cons.1 hmem
        · exact ⟨value, .here h hlater⟩
        · exact absurd h (hlater text hrest value)

/-- A dictionary has for each key what the last text for it gives. -/
theorem get?_ofList_eq_some_iff (h : GiveAll texts labels) :
    (Dictionary.ofList labels).get? key = some value ↔ LastGives texts key value := by
  induction h generalizing value with
  | nil => exact ⟨fun h => (nomatch h), fun h => (nomatch h)⟩
  | @cons text label rest others hgives _ ih =>
      -- The first text counts as long as no later one gives the key another value.
      have hnone : (Dictionary.ofList others).get? key = none ↔
          ∀ later ∈ rest, ∀ other, ¬Gives later key other := by
        rw [Option.eq_none_iff_forall_ne_some]
        constructor
        · intro hno later hmem other hother
          obtain ⟨last, hlast⟩ := exists_lastGives hmem hother
          exact hno last (ih.2 hlast)
        · intro hno last hlast
          obtain ⟨later, hmem, hlater⟩ := (ih.1 hlast).exists_gives
          exact hno later hmem last hlater
      rw [Dictionary.get?_ofList_cons, Option.or_eq_some_iff, ih, hnone,
        Option.ite_none_right_eq_some, Option.some.injEq]
      constructor
      · rintro (hlast | ⟨hno, rfl, rfl⟩)
        · exact .later hlast
        · exact .here hgives hno
      · intro hlast
        cases hlast with
        | here hfirst hno =>
            obtain rfl := hfirst.label_eq hgives
            exact .inr ⟨hno, rfl, rfl⟩
        | later hlast => exact .inl hlast

end

/-! ## Selectors -/

section

variable {texts : List String} {s : LabelSelector}

/-- A selector asks for the labels of the dictionary that its arguments give. -/
theorem parse_eq_ok_iff :
    parse texts = .ok s ↔ ∃ labels, GiveAll texts labels ∧ .ofList labels = s.labels := by
  simp only [parse, map_eq_ok_iff, labelsOf_eq_ok_iff]
  exact exists_congr fun labels => and_congr_right fun _ =>
    ⟨fun h => congrArg LabelSelector.labels h, fun h => congrArg LabelSelector.mk h⟩

/-- Every argument of a selector gives a key a value. -/
theorem exists_gives_of_parse (h : parse texts = .ok s) {text : String} (hmem : text ∈ texts) :
    ∃ key value, Gives text key value := by
  obtain ⟨labels, hlabels, -⟩ := parse_eq_ok_iff.1 h
  obtain ⟨label, -, hgives⟩ := Dictionary.exists_mem_of_forall₂ hlabels.flip hmem
  exact ⟨label.1, label.2, hgives⟩

/-- **The last argument for a key decides** about the label that a selector asks for. -/
theorem get?_parse (h : parse texts = .ok s) {key value : String} :
    s.labels.get? key = some value ↔ LastGives texts key value := by
  obtain ⟨labels, hlabels, hs⟩ := parse_eq_ok_iff.1 h
  rw [← hs, get?_ofList_eq_some_iff hlabels]

end
end LabelSelector

/-- The node has the label that a text gives. -/
def ClusterNode.Answers (node : ClusterNode) (text : String) : Prop :=
  ∃ key value, LabelSelector.Gives text key value ∧ node.labels.get? key = some value

/-- A node that answers to a text has the value that the text gives. -/
theorem ClusterNode.Answers.get?_eq {node : ClusterNode} {text key value : String}
    (h : node.Answers text) (hgives : LabelSelector.Gives text key value) :
    node.labels.get? key = some value := by
  obtain ⟨_, _, hgives', hvalue⟩ := h
  obtain ⟨rfl, rfl⟩ := Prod.mk.inj (hgives.label_eq hgives')
  exact hvalue

/-- A node answers to a text when it has the label that is read from it. -/
theorem ClusterNode.any_label?_iff {node : ClusterNode} {text : String} :
    (LabelSelector.label? text).any node.hasLabel = true ↔ node.Answers text := by
  cases h : LabelSelector.label? text with
  | none =>
      refine ⟨fun hany => (nomatch hany), fun ⟨key, value, hgives, _⟩ => ?_⟩
      rw [← LabelSelector.label?_eq_some_iff, h] at hgives
      contradiction
  | some label =>
      have hlabel : LabelSelector.Gives text label.1 label.2 :=
        LabelSelector.label?_eq_some_iff.1 h
      rw [Option.any_some, ClusterNode.hasLabel, beq_iff_eq]
      exact ⟨fun hvalue => ⟨label.1, label.2, hlabel, hvalue⟩, fun hanswers =>
        hanswers.get?_eq hlabel⟩

instance (node : ClusterNode) (text : String) : Decidable (node.Answers text) :=
  decidable_of_iff _ ClusterNode.any_label?_iff

namespace LabelSelector

variable {texts : List String} {s : LabelSelector}

/-- No two texts give one key different values. -/
def Agree (texts : List String) : Prop :=
  ∀ text ∈ texts, ∀ text' ∈ texts, ∀ key value value',
    Gives text key value → Gives text' key value' → value = value'

/-- The node that carries the labels that a selector asks for, and nothing else. -/
def ownNode (s : LabelSelector) : ClusterNode := { ClusterNode.ofName "" with labels := s.labels }

theorem admits_ownNode (s : LabelSelector) : s.admits s.ownNode = true :=
  admits_iff.2 fun _ _ h => h

/-- Where texts agree, each of them decides. -/
theorem lastGives_of_agree (h : Agree texts) {text : String} (hmem : text ∈ texts)
    {key value : String} (hgives : Gives text key value) : LastGives texts key value := by
  obtain ⟨last, hlast⟩ := exists_lastGives hmem hgives
  obtain ⟨text', hmem', hgives'⟩ := hlast.exists_gives
  obtain rfl := h text hmem text' hmem' key value last hgives hgives'
  exact hlast

/-- A selector admits the nodes with the labels that the last arguments give. -/
theorem admits_parse_iff (h : parse texts = .ok s) {node : ClusterNode} :
    s.admits node = true ↔
      ∀ key value, LastGives texts key value → node.labels.get? key = some value := by
  simp only [← get?_parse h]
  exact admits_iff

/-- A node that answers to all arguments is chosen. -/
theorem admits_of_answers (h : parse texts = .ok s) {node : ClusterNode}
    (hall : ∀ text ∈ texts, node.Answers text) : s.admits node = true := by
  refine (admits_parse_iff h).2 fun key value hlast => ?_
  obtain ⟨text, hmem, hgives⟩ := hlast.exists_gives
  exact (hall text hmem).get?_eq hgives

/-- Where the arguments agree, a node that is chosen answers to each of them. -/
theorem answers_of_admits (h : parse texts = .ok s) (hagree : Agree texts) {node : ClusterNode}
    (hadmits : s.admits node = true) {text : String} (hmem : text ∈ texts) : node.Answers text := by
  obtain ⟨key, value, hgives⟩ := exists_gives_of_parse h hmem
  exact ⟨key, value, hgives,
    (admits_parse_iff h).1 hadmits key value (lastGives_of_agree hagree hmem hgives)⟩

/-- If all arguments count for the node that carries what is asked for, they agree. -/
theorem agree_of_answers_ownNode (hall : ∀ text ∈ texts, s.ownNode.Answers text) :
    Agree texts := by
  intro text hmem text' hmem' key value value' hgives hgives'
  have hvalue := (hall text hmem).get?_eq hgives
  have hvalue' := (hall text' hmem').get?_eq hgives'
  exact Option.some.inj (hvalue.symm.trans hvalue')

/-- **The last arguments of a selector choose the nodes**: a node is chosen if it has each
label that the last argument for its key gives.  All arguments count, for whatever nodes,
exactly if no two of them give one key different values. -/
theorem select_parse (h : parse texts = .ok s) :
    (∀ text ∈ texts, ∃ key value, Gives text key value) ∧
    (∀ node, s.admits node = true ↔
      ∀ key value, LastGives texts key value → node.labels.get? key = some value) ∧
    ((∀ nodes, s.select nodes = nodes.filter fun node => ∀ text ∈ texts, node.Answers text) ↔
      Agree texts) := by
  refine ⟨fun text => exists_gives_of_parse h, fun node => admits_parse_iff h, ?_, ?_⟩
  · -- The node with the labels that are asked for is chosen, and so has all that are given.
    intro hselect
    have hmem : s.ownNode ∈ s.select [s.ownNode] :=
      List.mem_filter.2 ⟨List.mem_cons_self, admits_ownNode s⟩
    rw [hselect, List.mem_filter, decide_eq_true_iff] at hmem
    exact agree_of_answers_ownNode hmem.2
  · intro hagree nodes
    refine List.filter_congr fun node _ => Bool.eq_iff_iff.2 ?_
    rw [decide_eq_true_iff]
    exact ⟨fun hadmits text => answers_of_admits h hagree hadmits, admits_of_answers h⟩

/-- A value may hold equals signs, and a key that comes again takes its last value. -/
theorem select_parse_repeated :
    ∃ s, parse ["role=worker", "zone=a=b", "role=control-plane"] = .ok s ∧
      (∀ node, s.admits node = true →
        node.labels.get? "zone" = some "a=b" ∧ node.labels.get? "role" = some "control-plane") ∧
      ¬∀ nodes, s.select nodes = nodes.filter fun node =>
        ∀ text ∈ ["role=worker", "zone=a=b", "role=control-plane"], node.Answers text := by
  have hworker : Gives "role=worker" "role" "worker" := ⟨rfl, by decide⟩
  have hzone : Gives "zone=a=b" "zone" "a=b" := ⟨rfl, by decide⟩
  have hrole : Gives "role=control-plane" "role" "control-plane" := ⟨rfl, by decide⟩
  obtain ⟨s, hs⟩ : ∃ s, parse ["role=worker", "zone=a=b", "role=control-plane"] = .ok s :=
    ⟨_, rfl⟩
  obtain ⟨-, hadmits, hselect⟩ := select_parse hs
  refine ⟨s, hs, fun node hnode => ?_, ?_⟩
  · have hlabels := (hadmits node).1 hnode
    refine ⟨hlabels _ _ (.later (.here hzone ?_)), hlabels _ _ (.later (.later (.here hrole ?_)))⟩
    · intro later hmem other hother
      obtain rfl := List.mem_singleton.1 hmem
      have hlabel : ("role", "control-plane") = ("zone", other) := hother.label_eq hrole
      exact absurd (Prod.mk.inj hlabel).1 (by decide)
    · exact fun _ hmem => (nomatch hmem)
  · rw [hselect]
    intro hagree
    exact absurd (hagree _ (by simp) _ (by simp) _ _ _ hworker hrole) (by decide)

/-- A node is chosen that lacks the label of an argument. -/
theorem select_not_answers :
    ∃ s : LabelSelector, parse ["a=1", "a=2"] = .ok s ∧
      s.select [(ClusterNode.ofName "n").withLabel "a" "2"] =
        [(ClusterNode.ofName "n").withLabel "a" "2"] ∧
      ¬((ClusterNode.ofName "n").withLabel "a" "2").Answers "a=1" :=
  ⟨_, rfl, by decide, by decide⟩

end LabelSelector
end NodeFit
