/-!
Element names. The names that the construction of a page treats specially are constructors; every
other name, and every name that only occurs outside HTML, is `other`. The sets of names below are the
ones in terms of which the rules of page construction are written.
-/
namespace PageBlocks.Markup

/-- An element name. -/
inductive Tag where
  | a | address | applet | area | article | aside | b | base | basefont | bgsound | big
  | blockquote | body | br | button | caption | center | code | col | colgroup | dd | details
  | dialog | dir | div | dl | dt | em | embed | fieldset | figcaption | figure | font | footer
  | form | frame | frameset | h1 | h2 | h3 | h4 | h5 | h6 | head | header | hgroup | hr | html
  | i | iframe | image | img | input | isindex | keygen | li | link | listing | main | malignmark
  | marquee | math | menu | metaTag | mglyph | nav | nobr | noembed | noframes | noscript
  | object | ol | optgroup | option | p | param | plaintext | pre | rb | rp | rt | rtc | ruby | s
  | script | sectionTag | select | small | source | span | strike | strong | style | sub
  | summary | sup | svg | table | tbody | td | template | textarea | tfoot | th | thead | title
  | tr | track | tt | u | ul | var | wbr | xmp
  /-- A name without a rule of its own. -/
  | other (name : String)
  deriving DecidableEq, Inhabited

namespace Tag

/-- The names with a rule of their own, as they are written. -/
def known : List (String × Tag) := [
  ("a", .a), ("address", .address), ("applet", .applet), ("area", .area), ("article", .article),
  ("aside", .aside), ("b", .b), ("base", .base), ("basefont", .basefont), ("bgsound", .bgsound),
  ("big", .big), ("blockquote", .blockquote), ("body", .body), ("br", .br), ("button", .button),
  ("caption", .caption), ("center", .center), ("code", .code), ("col", .col),
  ("colgroup", .colgroup), ("dd", .dd), ("details", .details), ("dialog", .dialog),
  ("dir", .dir), ("div", .div), ("dl", .dl), ("dt", .dt), ("em", .em), ("embed", .embed),
  ("fieldset", .fieldset), ("figcaption", .figcaption), ("figure", .figure), ("font", .font),
  ("footer", .footer), ("form", .form), ("frame", .frame), ("frameset", .frameset), ("h1", .h1),
  ("h2", .h2), ("h3", .h3), ("h4", .h4), ("h5", .h5), ("h6", .h6), ("head", .head),
  ("header", .header), ("hgroup", .hgroup), ("hr", .hr), ("html", .html), ("i", .i),
  ("iframe", .iframe), ("image", .image), ("img", .img), ("input", .input),
  ("isindex", .isindex), ("keygen", .keygen), ("li", .li), ("link", .link),
  ("listing", .listing), ("main", .main), ("malignmark", .malignmark), ("marquee", .marquee),
  ("math", .math), ("menu", .menu), ("meta", .metaTag), ("mglyph", .mglyph), ("nav", .nav),
  ("nobr", .nobr), ("noembed", .noembed), ("noframes", .noframes), ("noscript", .noscript),
  ("object", .object), ("ol", .ol), ("optgroup", .optgroup), ("option", .option), ("p", .p),
  ("param", .param), ("plaintext", .plaintext), ("pre", .pre), ("rb", .rb), ("rp", .rp),
  ("rt", .rt), ("rtc", .rtc), ("ruby", .ruby), ("s", .s), ("script", .script),
  ("section", .sectionTag), ("select", .select), ("small", .small), ("source", .source),
  ("span", .span), ("strike", .strike), ("strong", .strong), ("style", .style), ("sub", .sub),
  ("summary", .summary), ("sup", .sup), ("svg", .svg), ("table", .table), ("tbody", .tbody),
  ("td", .td), ("template", .template), ("textarea", .textarea), ("tfoot", .tfoot), ("th", .th),
  ("thead", .thead), ("title", .title), ("tr", .tr), ("track", .track), ("tt", .tt), ("u", .u),
  ("ul", .ul), ("var", .var), ("wbr", .wbr), ("xmp", .xmp)]

/-- The name written as `s`, in small letters. -/
def ofString (s : String) : Tag := (known.lookup s).getD (.other s)

/-- The written form of a name. -/
def toString : Tag → String
  | .a => "a"
  | .address => "address"
  | .applet => "applet"
  | .area => "area"
  | .article => "article"
  | .aside => "aside"
  | .b => "b"
  | .base => "base"
  | .basefont => "basefont"
  | .bgsound => "bgsound"
  | .big => "big"
  | .blockquote => "blockquote"
  | .body => "body"
  | .br => "br"
  | .button => "button"
  | .caption => "caption"
  | .center => "center"
  | .code => "code"
  | .col => "col"
  | .colgroup => "colgroup"
  | .dd => "dd"
  | .details => "details"
  | .dialog => "dialog"
  | .dir => "dir"
  | .div => "div"
  | .dl => "dl"
  | .dt => "dt"
  | .em => "em"
  | .embed => "embed"
  | .fieldset => "fieldset"
  | .figcaption => "figcaption"
  | .figure => "figure"
  | .font => "font"
  | .footer => "footer"
  | .form => "form"
  | .frame => "frame"
  | .frameset => "frameset"
  | .h1 => "h1"
  | .h2 => "h2"
  | .h3 => "h3"
  | .h4 => "h4"
  | .h5 => "h5"
  | .h6 => "h6"
  | .head => "head"
  | .header => "header"
  | .hgroup => "hgroup"
  | .hr => "hr"
  | .html => "html"
  | .i => "i"
  | .iframe => "iframe"
  | .image => "image"
  | .img => "img"
  | .input => "input"
  | .isindex => "isindex"
  | .keygen => "keygen"
  | .li => "li"
  | .link => "link"
  | .listing => "listing"
  | .main => "main"
  | .malignmark => "malignmark"
  | .marquee => "marquee"
  | .math => "math"
  | .menu => "menu"
  | .metaTag => "meta"
  | .mglyph => "mglyph"
  | .nav => "nav"
  | .nobr => "nobr"
  | .noembed => "noembed"
  | .noframes => "noframes"
  | .noscript => "noscript"
  | .object => "object"
  | .ol => "ol"
  | .optgroup => "optgroup"
  | .option => "option"
  | .p => "p"
  | .param => "param"
  | .plaintext => "plaintext"
  | .pre => "pre"
  | .rb => "rb"
  | .rp => "rp"
  | .rt => "rt"
  | .rtc => "rtc"
  | .ruby => "ruby"
  | .s => "s"
  | .script => "script"
  | .sectionTag => "section"
  | .select => "select"
  | .small => "small"
  | .source => "source"
  | .span => "span"
  | .strike => "strike"
  | .strong => "strong"
  | .style => "style"
  | .sub => "sub"
  | .summary => "summary"
  | .sup => "sup"
  | .svg => "svg"
  | .table => "table"
  | .tbody => "tbody"
  | .td => "td"
  | .template => "template"
  | .textarea => "textarea"
  | .tfoot => "tfoot"
  | .th => "th"
  | .thead => "thead"
  | .title => "title"
  | .tr => "tr"
  | .track => "track"
  | .tt => "tt"
  | .u => "u"
  | .ul => "ul"
  | .var => "var"
  | .wbr => "wbr"
  | .xmp => "xmp"
  | .other name => name

/-- The six heading names. -/
def isHeading : Tag → Bool
  | .h1 | .h2 | .h3 | .h4 | .h5 | .h6 => true
  | _ => false

/-- Names at which the search for the element that a stray end tag closes gives up. -/
def isSpecial : Tag → Bool
  | .address | .applet | .area | .article | .aside | .base | .basefont | .bgsound | .blockquote
  | .body | .br | .button | .caption | .center | .col | .colgroup | .dd | .details | .dir | .div
  | .dl | .dt | .embed | .fieldset | .figcaption | .figure | .footer | .form | .frame
  | .frameset | .h1 | .h2 | .h3 | .h4 | .h5 | .h6 | .head | .header | .hgroup | .hr | .html
  | .iframe | .img | .input | .isindex | .li | .link | .listing | .main | .marquee | .menu
  | .metaTag | .nav | .noembed | .noframes | .noscript | .object | .ol | .p | .param
  | .plaintext | .pre | .script | .sectionTag | .select | .source | .style | .summary | .table
  | .tbody | .td | .template | .textarea | .tfoot | .th | .thead | .title | .tr | .track | .ul
  | .wbr | .xmp => true
  | _ => false

/-- Names that bound the default scope. -/
def isScopeBarrier : Tag → Bool
  | .applet | .caption | .html | .table | .td | .th | .marquee | .object | .template => true
  | _ => false

/-- Names that bound the scope of a table. -/
def isTableScopeBarrier : Tag → Bool
  | .html | .table | .template => true
  | _ => false

/-- Elements whose end tag may be left out. -/
def closesImplicitly : Tag → Bool
  | .dd | .dt | .li | .option | .optgroup | .p | .rb | .rp | .rt | .rtc => true
  | _ => false

/-- Further elements that the end of a template closes. -/
def closesInTemplate : Tag → Bool
  | .caption | .colgroup | .tbody | .td | .tfoot | .th | .thead | .tr => true
  | _ => false

/-- Elements of a table in which text and most elements are misplaced. -/
def isTablePart : Tag → Bool
  | .table | .tbody | .tfoot | .thead | .tr => true
  | _ => false

/-- Elements to which the stack is cut before a row is opened. -/
def isTableBodyContext : Tag → Bool
  | .tbody | .tfoot | .thead | .template | .html => true
  | _ => false

/-- Elements to which the stack is cut before a cell is opened. -/
def isTableRowContext : Tag → Bool
  | .tr | .template | .html => true
  | _ => false

/-- The two kinds of cell. -/
def isCell : Tag → Bool
  | .td | .th => true
  | _ => false

/-- Blocks of rows. -/
def isSection : Tag → Bool
  | .tbody | .tfoot | .thead => true
  | _ => false

/-- Elements that belong to the head wherever they are met. -/
def isHeadContent : Tag → Bool
  | .base | .basefont | .bgsound | .link | .metaTag | .noframes | .script | .style | .template
  | .title => true
  | _ => false

/-- Elements of the head that hold nothing. -/
def isHeadVoid : Tag → Bool
  | .base | .basefont | .bgsound | .link | .metaTag => true
  | _ => false

/-- Blocks that end an open paragraph. -/
def isBlock : Tag → Bool
  | .address | .article | .aside | .blockquote | .center | .details | .dialog | .dir | .div
  | .dl | .fieldset | .figcaption | .figure | .footer | .header | .hgroup | .main | .menu | .nav
  | .ol | .p | .sectionTag | .summary | .ul => true
  | _ => false

/-- Blocks that their own end tag closes, whatever is still open inside. -/
def isClosableBlock : Tag → Bool
  | .address | .article | .aside | .blockquote | .button | .center | .details | .dialog | .dir
  | .div | .dl | .fieldset | .figcaption | .figure | .footer | .header | .hgroup | .listing
  | .main | .menu | .nav | .ol | .pre | .sectionTag | .summary | .ul => true
  | _ => false

/-- Formatting elements, which are opened again where misnesting cut them short. -/
def isFormatting : Tag → Bool
  | .b | .big | .code | .em | .font | .i | .s | .small | .strike | .strong | .tt | .u => true
  | _ => false

/-- Embedded objects, which hide outer formatting. -/
def isEmbeddedScope : Tag → Bool
  | .applet | .marquee | .object => true
  | _ => false

/-- Elements of running text that hold nothing. -/
def isBodyVoid : Tag → Bool
  | .area | .br | .embed | .img | .keygen | .wbr | .input => true
  | _ => false

/-- Parts of media elements that hold nothing. -/
def isMediaVoid : Tag → Bool
  | .param | .source | .track => true
  | _ => false

/-- Start tags that mean nothing in running text. -/
def isMisplacedInBody : Tag → Bool
  | .caption | .col | .colgroup | .frame | .head | .tbody | .td | .tfoot | .th | .thead | .tr => true
  | _ => false

/-- Start tags that end an island of another vocabulary. -/
def endsForeign : Tag → Bool
  | .b | .big | .blockquote | .body | .br | .center | .code | .dd | .div | .dl | .dt | .em
  | .embed | .h1 | .h2 | .h3 | .h4 | .h5 | .h6 | .head | .hr | .i | .img | .li | .listing
  | .menu | .metaTag | .nobr | .ol | .p | .pre | .ruby | .s | .small | .span | .strong | .strike
  | .sub | .sup | .table | .tt | .u | .ul | .var => true
  | _ => false

end Tag

end PageBlocks.Markup
