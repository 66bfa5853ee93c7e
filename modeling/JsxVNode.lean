import JsxVNode.Config.Reader
import JsxVNode.Pass
import JsxVNode.Proofs.Bindings
import JsxVNode.Proofs.Compile.Coverage
import JsxVNode.Proofs.Compile.Fragments
import JsxVNode.Proofs.Compile.InputModels
import JsxVNode.Proofs.Compile.Respelling
import JsxVNode.Proofs.Compile.SeveralModels
import JsxVNode.Proofs.Compile.Shape
import JsxVNode.Proofs.Imports.Injection
import JsxVNode.Proofs.Pass.Comments
import JsxVNode.Proofs.Pass.Count
import JsxVNode.Proofs.Pass.Faults
import JsxVNode.Proofs.Pass.FirstFault
import JsxVNode.Proofs.Pass.Frame
import JsxVNode.Proofs.Pass.MarkupFree
import JsxVNode.Proofs.Pass.Prologue
import JsxVNode.Proofs.Pass.References
import JsxVNode.Proofs.Pass.Rewrap
import JsxVNode.Proofs.Pass.Tags
import JsxVNode.Proofs.Pass.Unmerged
import JsxVNode.Proofs.Props.Meaning
import JsxVNode.Proofs.Props.Runs
import JsxVNode.Proofs.Props.SourceOrder
import JsxVNode.Proofs.Text.Rebreak
import JsxVNode.Proofs.Tree.Constants
