/-
  Cidre.NiriConfig.Termination

  Parsing ends on every file system.  A file reads others only one level deeper
  and never at the limit, so the recursion is no deeper than the limit, however
  the files include each other and however the includes are spelled.  What is
  proved is that fuel for the limit is enough, and that more of it changes nothing.
-/

import Cidre.NiriConfig.Inlining

namespace Cidre.NiriConfig

variable {S : Schema} {env : Env S}

/-- At this depth the two ways to parse a file come to the same result, and to
    one at all. -/
def Settled (parseFile parseFile' : ParseFile S) (depth : Nat) : Prop :=
  ∀ (ctx : FileContext) (file text : String) (shared : Shared S), ctx.recursion = depth →
    parseFile ctx file text shared = parseFile' ctx file text shared ∧
      (parseFile ctx file text shared).isSome

section Step

variable {parseFile parseFile' : ParseFile S} {ctx : FileContext}

theorem readInclude_settled (h : Settled parseFile parseFile' ctx.recursion) (path : Path)
    (isOptional : Bool) (st : Progress S) :
    readInclude env parseFile ctx path isOptional st =
        readInclude env parseFile' ctx path isOptional st ∧
      (readInclude env parseFile ctx path isOptional st).isSome := by
  unfold readInclude
  cases env.readToString path with
  | error err =>
    refine ⟨rfl, ?_⟩
    dsimp only
    split <;> rfl
  | ok text =>
    dsimp only
    obtain ⟨heq, hsome⟩ := h ctx (fileLabel ctx.rootBase path) text st.shared rfl
    rw [← heq]
    refine ⟨rfl, ?_⟩
    obtain ⟨⟨result, shared⟩, hr⟩ := Option.isSome_iff_exists.mp hsome
    rw [hr]
    cases result <;> rfl

variable (hdepth : ctx.recursion < recursionLimit)
  (h : ctx.recursion + 1 < recursionLimit → Settled parseFile parseFile' (ctx.recursion + 1))

include hdepth h

theorem decodeInclude_settled (node : Node) (st : Progress S) :
    decodeInclude env parseFile ctx node st = decodeInclude env parseFile' ctx node st ∧
      (decodeInclude env parseFile ctx node st).isSome := by
  unfold decodeInclude
  dsimp only
  cases (includeArguments env node).result with
  | error e => exact ⟨rfl, rfl⟩
  | ok arguments =>
    obtain ⟨spelled, isOptional⟩ := arguments
    dsimp only
    cases henter : enterInclude env ctx spelled with
    | error e => exact ⟨rfl, rfl⟩
    | ok entered =>
      obtain ⟨path, inner⟩ := entered
      obtain ⟨-, -, hrecursion, hlimit⟩ := enterInclude_ok henter
      have hsettled : Settled parseFile parseFile' inner.recursion :=
        hrecursion ▸ h (by omega)
      dsimp only
      obtain ⟨heq, hsome⟩ := readInclude_settled hsettled path isOptional _
      rw [heq]
      exact ⟨rfl, by rw [Option.isSome_map, ← heq]; exact hsome⟩

theorem decodeNode_settled (node : Node) (st : Progress S) :
    decodeNode env parseFile ctx node st = decodeNode env parseFile' ctx node st ∧
      (decodeNode env parseFile ctx node st).isSome := by
  unfold decodeNode
  split
  · exact ⟨rfl, rfl⟩
  · dsimp only
    split
    · exact decodeInclude_settled hdepth h node _
    · exact ⟨rfl, rfl⟩

theorem decodeChildren_settled (nodes : List Node) (st : Progress S) :
    decodeChildren env parseFile ctx nodes st = decodeChildren env parseFile' ctx nodes st ∧
      (decodeChildren env parseFile ctx nodes st).isSome := by
  induction nodes generalizing st with
  | nil => exact ⟨rfl, rfl⟩
  | cons node nodes ih =>
    unfold decodeChildren
    obtain ⟨heq, hsome⟩ := decodeNode_settled hdepth h node st
    rw [← heq]
    obtain ⟨⟨result, st₁⟩, hr⟩ := Option.isSome_iff_exists.mp hsome
    rw [hr]
    cases result with
    | error e => exact ⟨rfl, rfl⟩
    | ok u => exact ih st₁

end Step

theorem parseText_settled {parseFile parseFile' : ParseFile S} {depth : Nat}
    (hdepth : depth < recursionLimit)
    (h : depth + 1 < recursionLimit → Settled parseFile parseFile' (depth + 1)) :
    Settled (parseText env parseFile) (parseText env parseFile') depth := by
  rintro ctx file text shared rfl
  unfold parseText
  cases env.parseDocument text with
  | error errors => exact ⟨rfl, rfl⟩
  | ok nodes =>
    dsimp only
    have hchildren : decodeChildren env parseFile ctx nodes (.start shared) =
          decodeChildren env parseFile' ctx nodes (.start shared) ∧
        (decodeChildren env parseFile ctx nodes (.start shared)).isSome :=
      decodeChildren_settled hdepth h nodes (.start shared)
    rw [← hchildren.1]
    refine ⟨rfl, ?_⟩
    obtain ⟨⟨result, st⟩, hr⟩ := Option.isSome_iff_exists.mp hchildren.2
    rw [hr]
    cases result with
    | error e => rfl
    | ok u => dsimp only; split <;> rfl

/-- Below the limit, fuel for the levels that are left is enough. -/
theorem parseWithContext_settled {fuel fuel' depth : Nat} (hdepth : depth < recursionLimit)
    (hfuel : recursionLimit ≤ depth + fuel) (hfuel' : recursionLimit ≤ depth + fuel') :
    Settled (parseWithContext env fuel) (parseWithContext env fuel') depth := by
  induction fuel generalizing fuel' depth with
  | zero => omega
  | succ fuel ih =>
    cases fuel' with
    | zero => omega
    | succ fuel' =>
      exact parseText_settled hdepth fun hlimit => ih hlimit (by omega) (by omega)

/-- Parsing returns, with the same result for all fuel from the limit on. -/
theorem Config.parse_terminates (env : Env S) (path : Path) (text : String) :
    ∃ result, ∀ fuel, recursionLimit ≤ fuel → Config.parse env fuel path text = some result := by
  have hsettled : ∀ fuel, recursionLimit ≤ fuel →
      Settled (parseWithContext env recursionLimit) (parseWithContext env fuel) 0 :=
    fun fuel hfuel => parseWithContext_settled (by decide) (by omega) (by omega)
  have hsome : (Config.parse env recursionLimit path text).isSome := by
    unfold Config.parse
    obtain ⟨⟨result, shared⟩, hr⟩ := Option.isSome_iff_exists.mp
      (hsettled recursionLimit (Nat.le_refl _) (mainContext path)
        (path.fileName.getD "config.kdl") text .default rfl).2
    rw [hr]
    cases result <;> rfl
  obtain ⟨result, hresult⟩ := Option.isSome_iff_exists.mp hsome
  refine ⟨result, fun fuel hfuel => ?_⟩
  rw [← hresult]
  unfold Config.parse
  rw [(hsettled fuel hfuel (mainContext path) (path.fileName.getD "config.kdl") text .default
    rfl).1]

end Cidre.NiriConfig
