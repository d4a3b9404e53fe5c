/-
`webgl2_rendering_context_base.h`: the integer parameters of a WebGL 2 context.

At `MAXIMUM` twelve of them are lowered by one or left, by a bit that the generator of
the site draws.  Each has a draw of its own.  The other levels and the other names fall
through to the switch that the macro stands in front of, which is not in this
repository.
-/
import Whale.Farbling.Wrappers

set_option autoImplicit false

namespace Whale.Farbling

open Whale.Foundation

inductive GLenum where
  | GL_MAX_VERTEX_UNIFORM_COMPONENTS
  | GL_MAX_VERTEX_UNIFORM_BLOCKS
  | GL_MAX_VERTEX_OUTPUT_COMPONENTS
  | GL_MAX_VARYING_COMPONENTS
  | GL_MAX_TRANSFORM_FEEDBACK_INTERLEAVED_COMPONENTS
  | GL_MAX_FRAGMENT_UNIFORM_COMPONENTS
  | GL_MAX_FRAGMENT_UNIFORM_BLOCKS
  | GL_MAX_FRAGMENT_INPUT_COMPONENTS
  | GL_MAX_UNIFORM_BUFFER_BINDINGS
  | GL_MAX_COMBINED_UNIFORM_BLOCKS
  | GL_MAX_COMBINED_VERTEX_UNIFORM_COMPONENTS
  | GL_MAX_COMBINED_FRAGMENT_UNIFORM_COMPONENTS
  | other (value : UInt32)
  deriving DecidableEq, Repr

/-- What the graphics library writes for a name. -/
structure WebGL2RenderingContextBase where
  isContextLost : Bool
  getIntegerv : GLenum → Int
  getInteger64v : GLenum → Int

/-- A positive value is lowered by the bit that the generator draws after `discard`
others. -/
def farbleGLValue (renderer : Renderer) (context : ExecutionContext) (value : Int)
    (discard : Nat) (supplement : Option WhaleSessionCache) :
    Op (Int × Option WhaleSessionCache) :=
  if 0 < value then do
    let cache ← sessionCacheFrom renderer context supplement
    let prng ← cache.makePseudoRandomGenerator renderer.toFarblingPlatform .kNone
    pure (if prng discard % 2 ≠ 0 then value - 1 else value, some cache)
  else pure (value, supplement)

def farbleGLIntParameter (renderer : Renderer) (context : ExecutionContext)
    (owner : WebGL2RenderingContextBase) (pname : GLenum) (discard : Nat)
    (supplement : Option WhaleSessionCache) : Op (Int × Option WhaleSessionCache) :=
  farbleGLValue renderer context (if owner.isContextLost then 0 else owner.getIntegerv pname)
    discard supplement

def farbleGLInt64Parameter (renderer : Renderer) (context : ExecutionContext)
    (owner : WebGL2RenderingContextBase) (pname : GLenum) (discard : Nat)
    (supplement : Option WhaleSessionCache) : Op (Int × Option WhaleSessionCache) :=
  farbleGLValue renderer context (if owner.isContextLost then 0 else owner.getInteger64v pname)
    discard supplement

inductive GLWidth where
  | int
  | int64
  deriving DecidableEq, Repr

/-- The cases of the inner switch, with the number of draws that each discards. -/
def farbledParameter : GLenum → Option (GLWidth × Nat)
  | .GL_MAX_VERTEX_UNIFORM_COMPONENTS => some (.int, 1)
  | .GL_MAX_VERTEX_UNIFORM_BLOCKS => some (.int, 2)
  | .GL_MAX_VERTEX_OUTPUT_COMPONENTS => some (.int, 3)
  | .GL_MAX_VARYING_COMPONENTS => some (.int, 4)
  | .GL_MAX_TRANSFORM_FEEDBACK_INTERLEAVED_COMPONENTS => some (.int, 5)
  | .GL_MAX_FRAGMENT_UNIFORM_COMPONENTS => some (.int, 6)
  | .GL_MAX_FRAGMENT_UNIFORM_BLOCKS => some (.int, 7)
  | .GL_MAX_FRAGMENT_INPUT_COMPONENTS => some (.int, 8)
  | .GL_MAX_UNIFORM_BUFFER_BINDINGS => some (.int, 9)
  | .GL_MAX_COMBINED_UNIFORM_BLOCKS => some (.int, 10)
  | .GL_MAX_COMBINED_VERTEX_UNIFORM_COMPONENTS => some (.int64, 11)
  | .GL_MAX_COMBINED_FRAGMENT_UNIFORM_COMPONENTS => some (.int64, 12)
  | .other _ => none

/-- `WHALE_WEBGL2_RENDERING_CONTEXT_BASE_GETPARAMETER`; `none` where it falls through. -/
def getParameter (renderer : Renderer) (context : ExecutionContext)
    (owner : WebGL2RenderingContextBase) (pname : GLenum)
    (supplement : Option WhaleSessionCache) : Op (Option Int × Option WhaleSessionCache) := do
  let (level, supplement) ← getWhaleFarblingLevelFor renderer (some context) .off supplement
  match level with
  | .off => pure (none, supplement)
  | .balanced => pure (none, supplement)
  | .maximum =>
      match farbledParameter pname with
      | none => pure (none, supplement)
      | some (.int, discard) => do
          let (value, supplement) ←
            farbleGLIntParameter renderer context owner pname discard supplement
          pure (some value, supplement)
      | some (.int64, discard) => do
          let (value, supplement) ←
            farbleGLInt64Parameter renderer context owner pname discard supplement
          pure (some value, supplement)

/-- The value that the graphics library reports for a name that the macro farbles. -/
def WebGL2RenderingContextBase.trueValue (owner : WebGL2RenderingContextBase) (pname : GLenum)
    (width : GLWidth) : Int :=
  if owner.isContextLost then 0
  else
    match width with
    | .int => owner.getIntegerv pname
    | .int64 => owner.getInteger64v pname

end Whale.Farbling
