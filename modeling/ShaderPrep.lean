import ShaderPrep.Effect.Compiler
import ShaderPrep.Files.Includes
import ShaderPrep.Guard.Memo
import ShaderPrep.Main
import ShaderPrep.Options.Summary
import ShaderPrep.Target.Spelling
import ShaderPrep.Target.Templated
import ShaderPrep.Proofs.Conditional.Machine
import ShaderPrep.Proofs.Conditional.Simulation
import ShaderPrep.Proofs.Conditional.Evaluation
import ShaderPrep.Proofs.Guard.Calls
import ShaderPrep.Proofs.Guard.Operand
import ShaderPrep.Proofs.Guard.Yard
import ShaderPrep.Proofs.Guard.Parse
import ShaderPrep.Proofs.Include.Directive
import ShaderPrep.Proofs.Include.Inline
import ShaderPrep.Proofs.Include.Pass
import ShaderPrep.Proofs.Include.Depth
import ShaderPrep.Proofs.Effect.Requests
import ShaderPrep.Proofs.Effect.Sharing
import ShaderPrep.Proofs.Include.Rounds
import ShaderPrep.Proofs.Include.Split
import ShaderPrep.Proofs.Include.Restart
import ShaderPrep.Proofs.Include.Leftover
import ShaderPrep.Proofs.Include.Fetching
import ShaderPrep.Proofs.Processing.Uses
import ShaderPrep.Proofs.Conditional.Reading
import ShaderPrep.Proofs.Target.Memoryless
import ShaderPrep.Proofs.Processing.Replay
import ShaderPrep.Proofs.Processing.Respelling
import ShaderPrep.Proofs.Effect.Gathering
import ShaderPrep.Proofs.Effect.History
import ShaderPrep.Proofs.Define.Numeral
import ShaderPrep.Proofs.Define.Spelling
import ShaderPrep.Proofs.Guard.Symbols
import ShaderPrep.Proofs.Processing.Listing
import ShaderPrep.Proofs.Target.Hookless
import ShaderPrep.Proofs.Processing.Placement
import ShaderPrep.Proofs.Conditional.Comment
import ShaderPrep.Proofs.Tree.Conservation
import ShaderPrep.Proofs.Tree.Printing
import ShaderPrep.Proofs.Guard.Conservation
import ShaderPrep.Proofs.Guard.Words
import ShaderPrep.Proofs.Guard.Rereading
import ShaderPrep.Proofs.Guard.Padding
import ShaderPrep.Proofs.Tree.Rendering
import ShaderPrep.Proofs.Target.Watching
import ShaderPrep.Proofs.Target.Blocks
import ShaderPrep.Proofs.Text.Words
import ShaderPrep.Proofs.Target.Uniforms
import ShaderPrep.Proofs.Line.Conservation
import ShaderPrep.Proofs.Line.Comments
import ShaderPrep.Proofs.Numeral.Decimal
import ShaderPrep.Proofs.Include.Unrolling
import ShaderPrep.Proofs.Include.Lights
import ShaderPrep.Proofs.Include.Locality
import ShaderPrep.Proofs.Processing.Precision
import ShaderPrep.Proofs.Processing.Precedence
import ShaderPrep.Proofs.Target.Interface
import ShaderPrep.Proofs.Text.Passes
import ShaderPrep.Proofs.Target.Renaming
import ShaderPrep.Proofs.Target.ColorOutput
import ShaderPrep.Proofs.Numeral.Parts
import ShaderPrep.Proofs.Include.Printing
import ShaderPrep.Proofs.Memo.Recency
import ShaderPrep.Proofs.Guard.Conversions
