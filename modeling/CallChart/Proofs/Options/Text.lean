import CallChart.Options.Exchange
import CallChart.Proofs.Json.Separate

namespace CallChart

namespace GroupMode

theorem text_inj {m n : GroupMode} (same : m.text = n.text) : m = n := by
  cases m <;> cases n <;> first | rfl | simp [text] at same

end GroupMode

namespace RankDir

theorem text_inj {d e : RankDir} (same : d.text = e.text) : d = e := by
  cases d <;> cases e <;> first | rfl | simp [text] at same

end RankDir

namespace Retention

theorem text_inj {r s : Retention} (same : r.text = s.text) : r = s := by
  cases r <;> cases s <;> first | rfl | simp [text] at same

end Retention

namespace Json

theorem ofFields_inj {members members' : List (String × Json)}
    (same : ofFields members = ofFields members') : members = members' := by
  have injective : Function.Injective fun (key, value) => ((some key, value) : Option String × Json) :=
    fun f g same => by
      simp only [Prod.mk.injEq, Option.some.injEq] at same
      exact Prod.ext same.1 same.2
  exact List.map_injective_iff.mpr injective (object.inj same)

theorem ofTexts_inj {items items' : List String} (same : ofTexts items = ofTexts items') :
    items = items' := by
  have injective : Function.Injective ofText := fun s t same => by simpa [ofText] using same
  exact List.map_injective_iff.mpr injective (array.inj same)

end Json

namespace Style

theorem separate {s t : Style} (finite : s.nodesep.isFinite = true)
    (finite' : t.nodesep.isFinite = true) :
    Json.Separate (.ofFields s.toFields) (.ofFields t.toFields) := by
  apply Json.separate_ofFields
  refine .cons ⟨rfl, Json.separate_ofNat _ _⟩ (.cons ⟨rfl, Json.separate_ofReal finite finite'⟩ ?_)
  exact .cons ⟨rfl, Json.separate_ofText _ _⟩ (.cons ⟨rfl, Json.separate_ofText _ _⟩
    (.cons ⟨rfl, Json.separate_ofText _ _⟩ .nil))

theorem toFields_inj {s t : Style} (finite : s.nodesep.isFinite = true)
    (finite' : t.nodesep.isFinite = true)
    (same : Json.ofFields s.toFields = Json.ofFields t.toFields) : s = t := by
  obtain ⟨minlen, nodesep, nodeshape, nodestyle, rankdir⟩ := s
  obtain ⟨minlen', nodesep', nodeshape', nodestyle', rankdir'⟩ := t
  have fields := Json.ofFields_inj same
  simp only [toFields, Json.ofNat, Json.ofReal, Json.ofText, finite, finite', ↓reduceIte,
    List.cons.injEq, Prod.mk.injEq, Json.number.injEq, Json.text.injEq, Option.some.injEq,
    Json.Number.whole.injEq, Json.Number.real.injEq, true_and, and_true, Int.ofNat_inj] at fields
  obtain ⟨rfl, rfl, rfl, rfl, direction⟩ := fields
  rw [RankDir.text_inj direction]

end Style

namespace Options

theorem separate {o p : Options} (finite : o.style.nodesep.isFinite = true)
    (finite' : p.style.nodesep.isFinite = true) :
    List.Forall₂ (fun f g => f.1 = g.1 ∧ Json.Separate f.2 g.2) o.toFields p.toFields := by
  refine .cons ⟨rfl, Json.separate_ofText _ _⟩ (.cons ⟨rfl, Json.separate_ofText _ _⟩ ?_)
  refine .cons ⟨rfl, Json.separate_ofTexts _ _⟩ (.cons ⟨rfl, Json.separate_ofTexts _ _⟩ ?_)
  refine .cons ⟨rfl, Json.separate_ofTexts _ _⟩ (.cons ⟨rfl, Json.separate_bool _ _⟩ ?_)
  refine .cons ⟨rfl, Json.separate_bool _ _⟩ (.cons ⟨rfl, Json.separate_bool _ _⟩ ?_)
  refine .cons ⟨rfl, Json.separate_ofText _ _⟩ (.cons ⟨rfl, ?_⟩ .nil)
  exact Style.separate finite finite'

theorem toJson_inj {o p : Options} (finite : o.style.nodesep.isFinite = true)
    (finite' : p.style.nodesep.isFinite = true) (same : o.toJson = p.toJson) : o = p := by
  obtain ⟨focus, group, limited, ignored, included, nostd, nointer, tests, retention, style⟩ := o
  obtain ⟨focus', group', limited', ignored', included', nostd', nointer', tests', retention',
    style'⟩ := p
  have fields := Json.ofFields_inj same
  simp only [toFields, Json.ofText, List.cons.injEq, Prod.mk.injEq, Json.text.injEq,
    Json.bool.injEq, Option.some.injEq, true_and, and_true] at fields
  obtain ⟨rfl, mode, limits, ignores, includes, rfl, rfl, rfl, kept, styles⟩ := fields
  have drawn : style = style' := Style.toFields_inj finite finite' styles
  rw [GroupMode.text_inj mode, Json.ofTexts_inj limits, Json.ofTexts_inj ignores,
    Json.ofTexts_inj includes, Retention.text_inj kept, drawn]

theorem encode_text_append {o p : Options} {rest rest' : List UInt8}
    (finite : o.style.nodesep.isFinite = true) (finite' : p.style.nodesep.isFinite = true)
    (same : Utf8.encode o.text ++ rest = Utf8.encode p.text ++ rest') : o = p ∧ rest = rest' := by
  have chars (o : Options) (rest : List UInt8) : Utf8.scanned (Utf8.encode o.text ++ rest) =
      (Json.ofFields o.toFields).chars.map some ++ Utf8.scanned rest := by
    rw [Utf8.encode, text, Json.compact, String.toList_ofList, Utf8.scanned_append, toJson]
  have scans := congrArg Utf8.scanned same
  rw [chars, chars] at scans
  have fields := (Json.ofFields_prefix (separate finite finite') scans).1
  have options := toJson_inj finite finite' (congrArg Json.ofFields fields)
  rw [options] at same
  exact ⟨options, List.append_cancel_left same⟩

theorem finite_of_check {o : Options} (valid : o.check = .ok ()) :
    o.style.nodesep.isFinite = true := by
  cases finite : o.style.nodesep.isFinite with
  | true => rfl
  | false => simp [check, finite] at valid

end Options
end CallChart
