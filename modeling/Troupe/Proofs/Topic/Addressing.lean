import Troupe.Proofs.Actor.Declarations
import Troupe.Proofs.System.Roster
import Troupe.Proofs.Topic.Patterns

/-!
# Whom a topic addresses

A topic of an actor ends with the actor's name and the name of a message.  Names are
single segments without wildcards, so both ends of the topic are literals when it is
taken as a pattern, and whatever wildcards the device brings in cannot reach over them.

Writes of properties therefore go to the actor that they are addressed to.
-/

namespace Troupe

theorem splitOn_topicFor (device : String) {name message : String} (hname : '/' ∉ name.toList)
    (hmessage : '/' ∉ message.toList) :
    (topicFor device name message).toList.splitOn '/' =
      device.toList.splitOn '/' ++ [name.toList, message.toList] := by
  have hchars : (topicFor device name message).toList =
      device.toList ++ '/' :: (name.toList ++ '/' :: message.toList) := by
    simp [topicFor, String.toList_append]
  have hcut : forall front back : List Char,
      (front ++ '/' :: back).splitOn '/' = front.splitOn '/' ++ back.splitOn '/' :=
    fun front back => List.splitOnP_append_cons front back (by decide)
  have hsingle : forall text : String, '/' ∉ text.toList ->
      text.toList.splitOn '/' = [text.toList] := by
    intro text htext
    apply List.splitOnP_eq_singleton
    intro c hc
    rw [beq_eq_false_iff_ne]
    exact fun heq => htext (heq ▸ hc)
  rw [hchars, hcut, hcut, hsingle name hname, hsingle message hmessage, List.singleton_append]

theorem segments_topicFor {device name message : String} (hname : GoodName name)
    (hmessage : GoodName message) {pattern : TopicPattern}
    (hpattern : TopicPattern.parse (topicFor device name message) = .ok pattern) :
    exists front : List TopicSegment,
      pattern.segments = front ++ [name.toList, message.toList].map TopicSegment.literal := by
  have hparsed := TopicPattern.parseAll_of_parse hpattern
  rw [splitOn_topicFor device hname.noSlash hmessage.noSlash,
    TopicSegment.parseAll_append] at hparsed
  rcases hparsed with ⟨front, back, hsegments, -, hback⟩
  have hliteral : forall text : List Char, text ∈ [name.toList, message.toList] ->
      text ≠ [] ∧ '*' ∉ text := by
    have hgood : forall text : String, GoodName text -> text.toList ≠ [] ∧ '*' ∉ text.toList :=
      fun text h => ⟨fun hnil => h.nonempty (String.toList_eq_nil_iff.mp hnil), h.noStar⟩
    rw [List.forall_mem_cons, List.forall_mem_singleton]
    exact ⟨hgood name hname, hgood message hmessage⟩
  rw [TopicSegment.parseAll_literals hliteral] at hback
  cases hback
  exact ⟨front, hsegments⟩

theorem name_of_covers {device name device' name' message : String} (hname : GoodName name)
    (hname' : GoodName name') (hmessage : GoodName message) {pattern : TopicPattern}
    (hpattern : TopicPattern.parse (topicFor device name message) = .ok pattern)
    (hcovers : pattern.covers (topicFor device' name' message) = true) : name = name' := by
  rcases segments_topicFor hname hmessage hpattern with ⟨front, hsegments⟩
  unfold TopicPattern.covers at hcovers
  rw [hsegments, splitOn_topicFor device' hname'.noSlash hmessage.noSlash] at hcovers
  rcases TopicSegment.ends_of_matchAll hcovers with ⟨before, hends⟩
  rcases List.append_inj' hends rfl with ⟨-, hlast⟩
  rw [List.cons.injEq] at hlast
  exact String.toList_inj.mp hlast.left.symm

theorem goodName_set : GoodName "set" := by
  constructor <;> decide

/-- The topic of an actor's writes is a pattern for itself and for no other actor's,
whatever the devices are called, so the binding that comes of a declaration gets no write
that is addressed to somebody else. -/
theorem writes_reach_addressee {device name : String} (hname : Registry.validName name = true)
    {pattern : TopicPattern}
    (hpattern : TopicPattern.parse (topicFor device name "set") = .ok pattern) :
    pattern.covers (topicFor device name "set") = true ∧
      (forall device' name' : String, Registry.validName name' = true ->
        pattern.covers (topicFor device' name' "set") = true -> name = name') ∧
      forall {α : Type} (a : Actor α) (bridge : Bridge) (info : PropertyInfo) (initial : Handle),
        a.device = device -> a.ref.name = name ->
          exists added : List Binding,
            (a.declare bridge info initial).2.2.bindings = bridge.bindings ++ added ∧
              forall (binding : Binding) (device' name' : String), binding ∈ added ->
                Registry.validName name' = true ->
                  binding.pattern.covers (topicFor device' name' "set") = true ->
                    binding.target = a.ref ∧ a.ref.name = name' := by
  have hgood := Registry.validName_iff.mp hname
  refine ⟨TopicPattern.covers_of_parse hpattern, fun device' name' hname' hcovers => ?_,
    fun a bridge info initial hdevice hself => ?_⟩
  · exact name_of_covers hgood (Registry.validName_iff.mp hname') goodName_set hpattern hcovers
  · rcases (a.declares bridge info initial).bindings with ⟨added, hadded, hbound⟩
    refine ⟨added, hadded, fun binding device' name' hmem hname' hcovers => ?_⟩
    have hown := hbound binding hmem
    exact ⟨hown.target, name_of_covers (hself ▸ hgood) (Registry.validName_iff.mp hname')
      goodName_set hown.pattern hcovers⟩

/-- A device that is all wildcards lets in writes on any device, and still for nobody else. -/
theorem writes_reach_addressee_any_device :
    let pattern : TopicPattern :=
      { text := "**/*/lamp/set"
        segments := [TopicSegment.rest, TopicSegment.one, TopicSegment.literal "lamp".toList,
          TopicSegment.literal "set".toList] }
    pattern.covers "**/*/lamp/set" = true ∧ pattern.covers "attic/left/lamp/set" = true ∧
      pattern.covers "attic/lamp/door/set" = false := by
  intro pattern
  have hpattern : TopicPattern.parse (topicFor "**/*" "lamp" "set") = .ok pattern := by decide
  rcases writes_reach_addressee (by decide) hpattern with ⟨hself, hothers, -⟩
  refine ⟨hself, by decide, ?_⟩
  rw [Bool.eq_false_iff]
  intro hcovers
  exact absurd (hothers "attic/lamp" "door" (by decide) hcovers) (by decide)

end Troupe
