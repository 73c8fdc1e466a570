import Mathlib.Analysis.SpecialFunctions.Log.Base
import PhantomFlow.Library.JsNumber

namespace PhantomFlow.Library

noncomputable def realMath : JsMath ℝ := ⟨Real.sqrt,Real.log,Real.logb (lit 2),Real.exp⟩

@[simp] theorem realMath_sqrt : realMath.sqrt = Real.sqrt := rfl

end PhantomFlow.Library
