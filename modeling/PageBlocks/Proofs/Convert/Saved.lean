import PageBlocks.Convert.Config
import PageBlocks.Convert.Options
import PageBlocks.Proofs.Json.Records

/-!
Settings that are kept as JSON text. A configuration and the options of a conversion are read back from
their texts as they were, whatever their strings and numbers are; a configuration that could not be used
is refused for the same fault when it is read.
-/
namespace PageBlocks

open Json Json.Decoder

theorem HeadingLook.decode_toJson (s : HeadingLook) : decode s.toJson.reading = some s := by
  have hslots := slots_reading [("enabled", .bool s.enabled),
    ("title_color", .optStr s.titleColor), ("typography", .bool s.typography),
    ("font_family", .str s.fontFamily), ("font_weight", .str s.fontWeight)] (by simp)
  simp only [List.map_cons, List.map_nil] at hslots
  simp only [decode, toJson, hslots, field, optional_str_reading, Option.bind_eq_bind, Option.bind_some]
  rfl

theorem Config.decode_toJson (c : Config) : decode c.toJson.reading = some c := by
  have hslots := slots_reading [("encoding", .str c.preparation.name),
    ("heading_style", c.headingLook.toJson), ("elementor_version", .str c.elementorVersion),
    ("divi_version", .str c.diviVersion), ("divi_page_layout", .str c.diviPageLayout),
    ("utility_class_prefix", .str c.classLead), ("element_id_seed", .optWord c.idSeed),
    ("image_cache_capacity", .word c.cacheCapacity)] (by simp)
  simp only [List.map_cons, List.map_nil] at hslots
  simp only [decode, toJson, hslots, field, name_reading c.preparation.lookup_name,
    HeadingLook.decode_toJson, optional_word64_reading, word64_reading, Option.bind_eq_bind,
    Option.bind_some]
  rfl

theorem ImageRef.decode_toJson (i : ImageRef) : decode i.toJson.reading = some i := by
  have hslots := slots_reading [("src", .str i.src), ("alt", .optStr i.alt),
    ("title", .optStr i.title)] (by simp)
  simp only [List.map_cons, List.map_nil] at hslots
  simp only [decode, toJson, hslots, field, required, optional_str_reading, Option.bind_eq_bind,
    Option.bind_some]
  rfl

namespace Options

theorem optional_image_reading (i : Option ImageRef) :
    optional ImageRef.decode (optImageJson i).reading = some i := by
  cases i with
  | none => rfl
  | some i => exact congrArg (Option.map some) i.decode_toJson

theorem decode_toJson (o : Options) : decode o.toJson.reading = some o := by
  have hslots := slots_reading [("builder", .str o.target.name),
    ("preserve_css", .bool o.preserveCss), ("upload_images", .bool o.uploadImages),
    ("extract_header_footer", .bool o.extractHeaderFooter), ("post_id", .optWord o.postId),
    ("css_scope", .optStr o.cssScope), ("scope_css", .bool o.scopeCss),
    ("skip_auto_prepend", .bool o.skipAutoPrepend), ("page_title", .optStr o.pageTitle),
    ("featured_image", optImageJson o.featuredImage), ("base_url", .optStr o.baseUrl),
    ("require_images", .bool o.requireImages)] (by simp)
  simp only [List.map_cons, List.map_nil] at hslots
  simp only [decode, toJson, hslots, field, name_reading o.target.lookup_name, optional_str_reading,
    optional_word64_reading, optional_image_reading, Option.bind_eq_bind, Option.bind_some]
  rfl

end Options

/-- Every configuration that passes its check is read from its JSON text as it was, every other one is
refused for its own fault, and all options are read from their JSON text as they were. -/
theorem settings_read_toText :
    (∀ c : Config, Config.ofText c.toJson.toText =
      match c.fault? with
      | none => .ok c
      | some fault => .error fault) ∧
    ∀ o : Options, (read? o.toJson.toText).bind Options.decode = some o := by
  constructor
  · intro c
    rw [Config.ofText, read?_toText]
    dsimp only
    rw [Config.ofReading, c.decode_toJson]
    dsimp only
    rw [Config.checked]
    cases c.fault? <;> rfl
  · intro o
    rw [read?_toText, Option.bind_some, o.decode_toJson]

end PageBlocks
