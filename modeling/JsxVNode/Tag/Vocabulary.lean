import JsxVNode.Text.DecimalDigit

/-!
# Known tags

The element names of HTML and SVG, and the names whose children stay a plain list
although they name no element.
-/

namespace JsxVNode.Tag

/-- The element names of HTML. -/
def htmlTags : List String := [
  "html", "body", "base", "head", "link", "meta", "style", "title", "address", "article", "aside",
  "footer", "header", "hgroup", "h1", "h2", "h3", "h4", "h5", "h6", "nav", "section", "div", "dd",
  "dl", "dt", "figcaption", "figure", "picture", "hr", "img", "li", "main", "ol", "p", "pre", "ul",
  "a", "b", "abbr", "bdi", "bdo", "br", "cite", "code", "data", "dfn", "em", "i", "kbd", "mark",
  "q", "rp", "rt", "ruby", "s", "samp", "small", "span", "strong", "sub", "sup", "time", "u", "var",
  "wbr", "area", "audio", "map", "track", "video", "embed", "object", "param", "source", "canvas",
  "script", "noscript", "del", "ins", "caption", "col", "colgroup", "table", "thead", "tbody", "td",
  "th", "tr", "button", "datalist", "fieldset", "form", "input", "label", "legend", "meter",
  "optgroup", "option", "output", "progress", "select", "textarea", "details", "dialog", "menu",
  "summary", "template", "blockquote", "iframe", "tfoot"]

/-- The element names of SVG. -/
def svgTags : List String := [
  "svg", "animate", "animateMotion", "animateTransform", "circle", "clipPath", "color-profile",
  "defs", "desc", "discard", "ellipse", "feBlend", "feColorMatrix", "feComponentTransfer",
  "feComposite", "feConvolveMatrix", "feDiffuseLighting", "feDisplacementMap", "feDistantLight",
  "feDropShadow", "feFlood", "feFuncA", "feFuncB", "feFuncG", "feFuncR", "feGaussianBlur",
  "feImage", "feMerge", "feMergeNode", "feMorphology", "feOffset", "fePointLight",
  "feSpecularLighting", "feSpotLight", "feTile", "feTurbulence", "filter", "foreignObject", "g",
  "hatch", "hatchpath", "image", "line", "linearGradient", "marker", "mask", "mesh", "meshgradient",
  "meshpatch", "meshrow", "metadata", "mpath", "path", "pattern", "polygon", "polyline",
  "radialGradient", "rect", "set", "solidcolor", "stop", "switch", "symbol", "text", "textPath",
  "title", "tspan", "unknown", "use", "view"]

/-- Whether a name is an element of HTML or SVG. -/
def isIntrinsic (name : String) : Bool := htmlTags.contains name || svgTags.contains name

/-- The name of the fragment component. -/
def fragment : String := "Fragment"

/-- The name of the component that keeps its children alive. -/
def keepAlive : String := "KeepAlive"

/-- Whether a name is the fragment's, perhaps after an underscore and with digits at its end. -/
def isFragmentLike (name : String) : Bool :=
  let cs := name.toList
  let cs := if cs.head? = some '_' then cs.tail else cs
  fragment.toList.isPrefixOf cs && (cs.drop fragment.length).all Text.isDecimalDigit

/-- Whether the children of a tag stay a plain list instead of becoming slots. -/
def isSlotless (name : String) : Bool := isFragmentLike name || name == keepAlive

end JsxVNode.Tag
