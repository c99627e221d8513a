import TokenConformance.Text.CodePoint

/-!
# Reference names — those that start with `p` to `z`

Each name as it is written behind the ampersand, with its semicolon where it has one, and the code
points it stands for.  Names are spelled out letter by letter, so that statements about all of
them can be settled by evaluation.
-/

namespace TokenConformance.Reference

/-- The names that start with `p`. -/
def smallP : List (List Char × Text) := [
  (['p', 'a', 'r', ';'], [0x2225]),
  (['p', 'a', 'r', 'a'], [0xB6]),
  (['p', 'a', 'r', 'a', ';'], [0xB6]),
  (['p', 'a', 'r', 'a', 'l', 'l', 'e', 'l', ';'], [0x2225]),
  (['p', 'a', 'r', 's', 'i', 'm', ';'], [0x2AF3]),
  (['p', 'a', 'r', 's', 'l', ';'], [0x2AFD]),
  (['p', 'a', 'r', 't', ';'], [0x2202]),
  (['p', 'c', 'y', ';'], [0x43F]),
  (['p', 'e', 'r', 'c', 'n', 't', ';'], [0x25]),
  (['p', 'e', 'r', 'i', 'o', 'd', ';'], [0x2E]),
  (['p', 'e', 'r', 'm', 'i', 'l', ';'], [0x2030]),
  (['p', 'e', 'r', 'p', ';'], [0x22A5]),
  (['p', 'e', 'r', 't', 'e', 'n', 'k', ';'], [0x2031]),
  (['p', 'f', 'r', ';'], [0x1D52D]),
  (['p', 'h', 'i', ';'], [0x3C6]),
  (['p', 'h', 'i', 'v', ';'], [0x3D5]),
  (['p', 'h', 'm', 'm', 'a', 't', ';'], [0x2133]),
  (['p', 'h', 'o', 'n', 'e', ';'], [0x260E]),
  (['p', 'i', ';'], [0x3C0]),
  (['p', 'i', 't', 'c', 'h', 'f', 'o', 'r', 'k', ';'], [0x22D4]),
  (['p', 'i', 'v', ';'], [0x3D6]),
  (['p', 'l', 'a', 'n', 'c', 'k', ';'], [0x210F]),
  (['p', 'l', 'a', 'n', 'c', 'k', 'h', ';'], [0x210E]),
  (['p', 'l', 'a', 'n', 'k', 'v', ';'], [0x210F]),
  (['p', 'l', 'u', 's', ';'], [0x2B]),
  (['p', 'l', 'u', 's', 'a', 'c', 'i', 'r', ';'], [0x2A23]),
  (['p', 'l', 'u', 's', 'b', ';'], [0x229E]),
  (['p', 'l', 'u', 's', 'c', 'i', 'r', ';'], [0x2A22]),
  (['p', 'l', 'u', 's', 'd', 'o', ';'], [0x2214]),
  (['p', 'l', 'u', 's', 'd', 'u', ';'], [0x2A25]),
  (['p', 'l', 'u', 's', 'e', ';'], [0x2A72]),
  (['p', 'l', 'u', 's', 'm', 'n'], [0xB1]),
  (['p', 'l', 'u', 's', 'm', 'n', ';'], [0xB1]),
  (['p', 'l', 'u', 's', 's', 'i', 'm', ';'], [0x2A26]),
  (['p', 'l', 'u', 's', 't', 'w', 'o', ';'], [0x2A27]),
  (['p', 'm', ';'], [0xB1]),
  (['p', 'o', 'i', 'n', 't', 'i', 'n', 't', ';'], [0x2A15]),
  (['p', 'o', 'p', 'f', ';'], [0x1D561]),
  (['p', 'o', 'u', 'n', 'd'], [0xA3]),
  (['p', 'o', 'u', 'n', 'd', ';'], [0xA3]),
  (['p', 'r', ';'], [0x227A]),
  (['p', 'r', 'E', ';'], [0x2AB3]),
  (['p', 'r', 'a', 'p', ';'], [0x2AB7]),
  (['p', 'r', 'c', 'u', 'e', ';'], [0x227C]),
  (['p', 'r', 'e', ';'], [0x2AAF]),
  (['p', 'r', 'e', 'c', ';'], [0x227A]),
  (['p', 'r', 'e', 'c', 'a', 'p', 'p', 'r', 'o', 'x', ';'], [0x2AB7]),
  (['p', 'r', 'e', 'c', 'c', 'u', 'r', 'l', 'y', 'e', 'q', ';'], [0x227C]),
  (['p', 'r', 'e', 'c', 'e', 'q', ';'], [0x2AAF]),
  (['p', 'r', 'e', 'c', 'n', 'a', 'p', 'p', 'r', 'o', 'x', ';'], [0x2AB9]),
  (['p', 'r', 'e', 'c', 'n', 'e', 'q', 'q', ';'], [0x2AB5]),
  (['p', 'r', 'e', 'c', 'n', 's', 'i', 'm', ';'], [0x22E8]),
  (['p', 'r', 'e', 'c', 's', 'i', 'm', ';'], [0x227E]),
  (['p', 'r', 'i', 'm', 'e', ';'], [0x2032]),
  (['p', 'r', 'i', 'm', 'e', 's', ';'], [0x2119]),
  (['p', 'r', 'n', 'E', ';'], [0x2AB5]),
  (['p', 'r', 'n', 'a', 'p', ';'], [0x2AB9]),
  (['p', 'r', 'n', 's', 'i', 'm', ';'], [0x22E8]),
  (['p', 'r', 'o', 'd', ';'], [0x220F]),
  (['p', 'r', 'o', 'f', 'a', 'l', 'a', 'r', ';'], [0x232E]),
  (['p', 'r', 'o', 'f', 'l', 'i', 'n', 'e', ';'], [0x2312]),
  (['p', 'r', 'o', 'f', 's', 'u', 'r', 'f', ';'], [0x2313]),
  (['p', 'r', 'o', 'p', ';'], [0x221D]),
  (['p', 'r', 'o', 'p', 't', 'o', ';'], [0x221D]),
  (['p', 'r', 's', 'i', 'm', ';'], [0x227E]),
  (['p', 'r', 'u', 'r', 'e', 'l', ';'], [0x22B0]),
  (['p', 's', 'c', 'r', ';'], [0x1D4C5]),
  (['p', 's', 'i', ';'], [0x3C8]),
  (['p', 'u', 'n', 'c', 's', 'p', ';'], [0x2008])]

/-- The names that start with `q`. -/
def smallQ : List (List Char × Text) := [
  (['q', 'f', 'r', ';'], [0x1D52E]),
  (['q', 'i', 'n', 't', ';'], [0x2A0C]),
  (['q', 'o', 'p', 'f', ';'], [0x1D562]),
  (['q', 'p', 'r', 'i', 'm', 'e', ';'], [0x2057]),
  (['q', 's', 'c', 'r', ';'], [0x1D4C6]),
  (['q', 'u', 'a', 't', 'e', 'r', 'n', 'i', 'o', 'n', 's', ';'], [0x210D]),
  (['q', 'u', 'a', 't', 'i', 'n', 't', ';'], [0x2A16]),
  (['q', 'u', 'e', 's', 't', ';'], [0x3F]),
  (['q', 'u', 'e', 's', 't', 'e', 'q', ';'], [0x225F]),
  (['q', 'u', 'o', 't'], [0x22]),
  (['q', 'u', 'o', 't', ';'], [0x22])]

/-- The names that start with `r`. -/
def smallR : List (List Char × Text) := [
  (['r', 'A', 'a', 'r', 'r', ';'], [0x21DB]),
  (['r', 'A', 'r', 'r', ';'], [0x21D2]),
  (['r', 'A', 't', 'a', 'i', 'l', ';'], [0x291C]),
  (['r', 'B', 'a', 'r', 'r', ';'], [0x290F]),
  (['r', 'H', 'a', 'r', ';'], [0x2964]),
  (['r', 'a', 'c', 'e', ';'], [0x223D, 0x331]),
  (['r', 'a', 'c', 'u', 't', 'e', ';'], [0x155]),
  (['r', 'a', 'd', 'i', 'c', ';'], [0x221A]),
  (['r', 'a', 'e', 'm', 'p', 't', 'y', 'v', ';'], [0x29B3]),
  (['r', 'a', 'n', 'g', ';'], [0x27E9]),
  (['r', 'a', 'n', 'g', 'd', ';'], [0x2992]),
  (['r', 'a', 'n', 'g', 'e', ';'], [0x29A5]),
  (['r', 'a', 'n', 'g', 'l', 'e', ';'], [0x27E9]),
  (['r', 'a', 'q', 'u', 'o'], [0xBB]),
  (['r', 'a', 'q', 'u', 'o', ';'], [0xBB]),
  (['r', 'a', 'r', 'r', ';'], [0x2192]),
  (['r', 'a', 'r', 'r', 'a', 'p', ';'], [0x2975]),
  (['r', 'a', 'r', 'r', 'b', ';'], [0x21E5]),
  (['r', 'a', 'r', 'r', 'b', 'f', 's', ';'], [0x2920]),
  (['r', 'a', 'r', 'r', 'c', ';'], [0x2933]),
  (['r', 'a', 'r', 'r', 'f', 's', ';'], [0x291E]),
  (['r', 'a', 'r', 'r', 'h', 'k', ';'], [0x21AA]),
  (['r', 'a', 'r', 'r', 'l', 'p', ';'], [0x21AC]),
  (['r', 'a', 'r', 'r', 'p', 'l', ';'], [0x2945]),
  (['r', 'a', 'r', 'r', 's', 'i', 'm', ';'], [0x2974]),
  (['r', 'a', 'r', 'r', 't', 'l', ';'], [0x21A3]),
  (['r', 'a', 'r', 'r', 'w', ';'], [0x219D]),
  (['r', 'a', 't', 'a', 'i', 'l', ';'], [0x291A]),
  (['r', 'a', 't', 'i', 'o', ';'], [0x2236]),
  (['r', 'a', 't', 'i', 'o', 'n', 'a', 'l', 's', ';'], [0x211A]),
  (['r', 'b', 'a', 'r', 'r', ';'], [0x290D]),
  (['r', 'b', 'b', 'r', 'k', ';'], [0x2773]),
  (['r', 'b', 'r', 'a', 'c', 'e', ';'], [0x7D]),
  (['r', 'b', 'r', 'a', 'c', 'k', ';'], [0x5D]),
  (['r', 'b', 'r', 'k', 'e', ';'], [0x298C]),
  (['r', 'b', 'r', 'k', 's', 'l', 'd', ';'], [0x298E]),
  (['r', 'b', 'r', 'k', 's', 'l', 'u', ';'], [0x2990]),
  (['r', 'c', 'a', 'r', 'o', 'n', ';'], [0x159]),
  (['r', 'c', 'e', 'd', 'i', 'l', ';'], [0x157]),
  (['r', 'c', 'e', 'i', 'l', ';'], [0x2309]),
  (['r', 'c', 'u', 'b', ';'], [0x7D]),
  (['r', 'c', 'y', ';'], [0x440]),
  (['r', 'd', 'c', 'a', ';'], [0x2937]),
  (['r', 'd', 'l', 'd', 'h', 'a', 'r', ';'], [0x2969]),
  (['r', 'd', 'q', 'u', 'o', ';'], [0x201D]),
  (['r', 'd', 'q', 'u', 'o', 'r', ';'], [0x201D]),
  (['r', 'd', 's', 'h', ';'], [0x21B3]),
  (['r', 'e', 'a', 'l', ';'], [0x211C]),
  (['r', 'e', 'a', 'l', 'i', 'n', 'e', ';'], [0x211B]),
  (['r', 'e', 'a', 'l', 'p', 'a', 'r', 't', ';'], [0x211C]),
  (['r', 'e', 'a', 'l', 's', ';'], [0x211D]),
  (['r', 'e', 'c', 't', ';'], [0x25AD]),
  (['r', 'e', 'g'], [0xAE]),
  (['r', 'e', 'g', ';'], [0xAE]),
  (['r', 'f', 'i', 's', 'h', 't', ';'], [0x297D]),
  (['r', 'f', 'l', 'o', 'o', 'r', ';'], [0x230B]),
  (['r', 'f', 'r', ';'], [0x1D52F]),
  (['r', 'h', 'a', 'r', 'd', ';'], [0x21C1]),
  (['r', 'h', 'a', 'r', 'u', ';'], [0x21C0]),
  (['r', 'h', 'a', 'r', 'u', 'l', ';'], [0x296C]),
  (['r', 'h', 'o', ';'], [0x3C1]),
  (['r', 'h', 'o', 'v', ';'], [0x3F1]),
  (['r', 'i', 'g', 'h', 't', 'a', 'r', 'r', 'o', 'w', ';'], [0x2192]),
  (['r', 'i', 'g', 'h', 't', 'a', 'r', 'r', 'o', 'w', 't', 'a', 'i', 'l', ';'], [0x21A3]),
  (['r', 'i', 'g', 'h', 't', 'h', 'a', 'r', 'p', 'o', 'o', 'n', 'd', 'o', 'w', 'n', ';'],
    [0x21C1]),
  (['r', 'i', 'g', 'h', 't', 'h', 'a', 'r', 'p', 'o', 'o', 'n', 'u', 'p', ';'], [0x21C0]),
  (['r', 'i', 'g', 'h', 't', 'l', 'e', 'f', 't', 'a', 'r', 'r', 'o', 'w', 's', ';'], [0x21C4]),
  (['r', 'i', 'g', 'h', 't', 'l', 'e', 'f', 't', 'h', 'a', 'r', 'p', 'o', 'o', 'n', 's', ';'],
    [0x21CC]),
  (['r', 'i', 'g', 'h', 't', 'r', 'i', 'g', 'h', 't', 'a', 'r', 'r', 'o', 'w', 's', ';'],
    [0x21C9]),
  (['r', 'i', 'g', 'h', 't', 's', 'q', 'u', 'i', 'g', 'a', 'r', 'r', 'o', 'w', ';'], [0x219D]),
  (['r', 'i', 'g', 'h', 't', 't', 'h', 'r', 'e', 'e', 't', 'i', 'm', 'e', 's', ';'], [0x22CC]),
  (['r', 'i', 'n', 'g', ';'], [0x2DA]),
  (['r', 'i', 's', 'i', 'n', 'g', 'd', 'o', 't', 's', 'e', 'q', ';'], [0x2253]),
  (['r', 'l', 'a', 'r', 'r', ';'], [0x21C4]),
  (['r', 'l', 'h', 'a', 'r', ';'], [0x21CC]),
  (['r', 'l', 'm', ';'], [0x200F]),
  (['r', 'm', 'o', 'u', 's', 't', ';'], [0x23B1]),
  (['r', 'm', 'o', 'u', 's', 't', 'a', 'c', 'h', 'e', ';'], [0x23B1]),
  (['r', 'n', 'm', 'i', 'd', ';'], [0x2AEE]),
  (['r', 'o', 'a', 'n', 'g', ';'], [0x27ED]),
  (['r', 'o', 'a', 'r', 'r', ';'], [0x21FE]),
  (['r', 'o', 'b', 'r', 'k', ';'], [0x27E7]),
  (['r', 'o', 'p', 'a', 'r', ';'], [0x2986]),
  (['r', 'o', 'p', 'f', ';'], [0x1D563]),
  (['r', 'o', 'p', 'l', 'u', 's', ';'], [0x2A2E]),
  (['r', 'o', 't', 'i', 'm', 'e', 's', ';'], [0x2A35]),
  (['r', 'p', 'a', 'r', ';'], [0x29]),
  (['r', 'p', 'a', 'r', 'g', 't', ';'], [0x2994]),
  (['r', 'p', 'p', 'o', 'l', 'i', 'n', 't', ';'], [0x2A12]),
  (['r', 'r', 'a', 'r', 'r', ';'], [0x21C9]),
  (['r', 's', 'a', 'q', 'u', 'o', ';'], [0x203A]),
  (['r', 's', 'c', 'r', ';'], [0x1D4C7]),
  (['r', 's', 'h', ';'], [0x21B1]),
  (['r', 's', 'q', 'b', ';'], [0x5D]),
  (['r', 's', 'q', 'u', 'o', ';'], [0x2019]),
  (['r', 's', 'q', 'u', 'o', 'r', ';'], [0x2019]),
  (['r', 't', 'h', 'r', 'e', 'e', ';'], [0x22CC]),
  (['r', 't', 'i', 'm', 'e', 's', ';'], [0x22CA]),
  (['r', 't', 'r', 'i', ';'], [0x25B9]),
  (['r', 't', 'r', 'i', 'e', ';'], [0x22B5]),
  (['r', 't', 'r', 'i', 'f', ';'], [0x25B8]),
  (['r', 't', 'r', 'i', 'l', 't', 'r', 'i', ';'], [0x29CE]),
  (['r', 'u', 'l', 'u', 'h', 'a', 'r', ';'], [0x2968]),
  (['r', 'x', ';'], [0x211E])]

/-- The names that start with `s`. -/
def smallS : List (List Char × Text) := [
  (['s', 'a', 'c', 'u', 't', 'e', ';'], [0x15B]),
  (['s', 'b', 'q', 'u', 'o', ';'], [0x201A]),
  (['s', 'c', ';'], [0x227B]),
  (['s', 'c', 'E', ';'], [0x2AB4]),
  (['s', 'c', 'a', 'p', ';'], [0x2AB8]),
  (['s', 'c', 'a', 'r', 'o', 'n', ';'], [0x161]),
  (['s', 'c', 'c', 'u', 'e', ';'], [0x227D]),
  (['s', 'c', 'e', ';'], [0x2AB0]),
  (['s', 'c', 'e', 'd', 'i', 'l', ';'], [0x15F]),
  (['s', 'c', 'i', 'r', 'c', ';'], [0x15D]),
  (['s', 'c', 'n', 'E', ';'], [0x2AB6]),
  (['s', 'c', 'n', 'a', 'p', ';'], [0x2ABA]),
  (['s', 'c', 'n', 's', 'i', 'm', ';'], [0x22E9]),
  (['s', 'c', 'p', 'o', 'l', 'i', 'n', 't', ';'], [0x2A13]),
  (['s', 'c', 's', 'i', 'm', ';'], [0x227F]),
  (['s', 'c', 'y', ';'], [0x441]),
  (['s', 'd', 'o', 't', ';'], [0x22C5]),
  (['s', 'd', 'o', 't', 'b', ';'], [0x22A1]),
  (['s', 'd', 'o', 't', 'e', ';'], [0x2A66]),
  (['s', 'e', 'A', 'r', 'r', ';'], [0x21D8]),
  (['s', 'e', 'a', 'r', 'h', 'k', ';'], [0x2925]),
  (['s', 'e', 'a', 'r', 'r', ';'], [0x2198]),
  (['s', 'e', 'a', 'r', 'r', 'o', 'w', ';'], [0x2198]),
  (['s', 'e', 'c', 't'], [0xA7]),
  (['s', 'e', 'c', 't', ';'], [0xA7]),
  (['s', 'e', 'm', 'i', ';'], [0x3B]),
  (['s', 'e', 's', 'w', 'a', 'r', ';'], [0x2929]),
  (['s', 'e', 't', 'm', 'i', 'n', 'u', 's', ';'], [0x2216]),
  (['s', 'e', 't', 'm', 'n', ';'], [0x2216]),
  (['s', 'e', 'x', 't', ';'], [0x2736]),
  (['s', 'f', 'r', ';'], [0x1D530]),
  (['s', 'f', 'r', 'o', 'w', 'n', ';'], [0x2322]),
  (['s', 'h', 'a', 'r', 'p', ';'], [0x266F]),
  (['s', 'h', 'c', 'h', 'c', 'y', ';'], [0x449]),
  (['s', 'h', 'c', 'y', ';'], [0x448]),
  (['s', 'h', 'o', 'r', 't', 'm', 'i', 'd', ';'], [0x2223]),
  (['s', 'h', 'o', 'r', 't', 'p', 'a', 'r', 'a', 'l', 'l', 'e', 'l', ';'], [0x2225]),
  (['s', 'h', 'y'], [0xAD]),
  (['s', 'h', 'y', ';'], [0xAD]),
  (['s', 'i', 'g', 'm', 'a', ';'], [0x3C3]),
  (['s', 'i', 'g', 'm', 'a', 'f', ';'], [0x3C2]),
  (['s', 'i', 'g', 'm', 'a', 'v', ';'], [0x3C2]),
  (['s', 'i', 'm', ';'], [0x223C]),
  (['s', 'i', 'm', 'd', 'o', 't', ';'], [0x2A6A]),
  (['s', 'i', 'm', 'e', ';'], [0x2243]),
  (['s', 'i', 'm', 'e', 'q', ';'], [0x2243]),
  (['s', 'i', 'm', 'g', ';'], [0x2A9E]),
  (['s', 'i', 'm', 'g', 'E', ';'], [0x2AA0]),
  (['s', 'i', 'm', 'l', ';'], [0x2A9D]),
  (['s', 'i', 'm', 'l', 'E', ';'], [0x2A9F]),
  (['s', 'i', 'm', 'n', 'e', ';'], [0x2246]),
  (['s', 'i', 'm', 'p', 'l', 'u', 's', ';'], [0x2A24]),
  (['s', 'i', 'm', 'r', 'a', 'r', 'r', ';'], [0x2972]),
  (['s', 'l', 'a', 'r', 'r', ';'], [0x2190]),
  (['s', 'm', 'a', 'l', 'l', 's', 'e', 't', 'm', 'i', 'n', 'u', 's', ';'], [0x2216]),
  (['s', 'm', 'a', 's', 'h', 'p', ';'], [0x2A33]),
  (['s', 'm', 'e', 'p', 'a', 'r', 's', 'l', ';'], [0x29E4]),
  (['s', 'm', 'i', 'd', ';'], [0x2223]),
  (['s', 'm', 'i', 'l', 'e', ';'], [0x2323]),
  (['s', 'm', 't', ';'], [0x2AAA]),
  (['s', 'm', 't', 'e', ';'], [0x2AAC]),
  (['s', 'm', 't', 'e', 's', ';'], [0x2AAC, 0xFE00]),
  (['s', 'o', 'f', 't', 'c', 'y', ';'], [0x44C]),
  (['s', 'o', 'l', ';'], [0x2F]),
  (['s', 'o', 'l', 'b', ';'], [0x29C4]),
  (['s', 'o', 'l', 'b', 'a', 'r', ';'], [0x233F]),
  (['s', 'o', 'p', 'f', ';'], [0x1D564]),
  (['s', 'p', 'a', 'd', 'e', 's', ';'], [0x2660]),
  (['s', 'p', 'a', 'd', 'e', 's', 'u', 'i', 't', ';'], [0x2660]),
  (['s', 'p', 'a', 'r', ';'], [0x2225]),
  (['s', 'q', 'c', 'a', 'p', ';'], [0x2293]),
  (['s', 'q', 'c', 'a', 'p', 's', ';'], [0x2293, 0xFE00]),
  (['s', 'q', 'c', 'u', 'p', ';'], [0x2294]),
  (['s', 'q', 'c', 'u', 'p', 's', ';'], [0x2294, 0xFE00]),
  (['s', 'q', 's', 'u', 'b', ';'], [0x228F]),
  (['s', 'q', 's', 'u', 'b', 'e', ';'], [0x2291]),
  (['s', 'q', 's', 'u', 'b', 's', 'e', 't', ';'], [0x228F]),
  (['s', 'q', 's', 'u', 'b', 's', 'e', 't', 'e', 'q', ';'], [0x2291]),
  (['s', 'q', 's', 'u', 'p', ';'], [0x2290]),
  (['s', 'q', 's', 'u', 'p', 'e', ';'], [0x2292]),
  (['s', 'q', 's', 'u', 'p', 's', 'e', 't', ';'], [0x2290]),
  (['s', 'q', 's', 'u', 'p', 's', 'e', 't', 'e', 'q', ';'], [0x2292]),
  (['s', 'q', 'u', ';'], [0x25A1]),
  (['s', 'q', 'u', 'a', 'r', 'e', ';'], [0x25A1]),
  (['s', 'q', 'u', 'a', 'r', 'f', ';'], [0x25AA]),
  (['s', 'q', 'u', 'f', ';'], [0x25AA]),
  (['s', 'r', 'a', 'r', 'r', ';'], [0x2192]),
  (['s', 's', 'c', 'r', ';'], [0x1D4C8]),
  (['s', 's', 'e', 't', 'm', 'n', ';'], [0x2216]),
  (['s', 's', 'm', 'i', 'l', 'e', ';'], [0x2323]),
  (['s', 's', 't', 'a', 'r', 'f', ';'], [0x22C6]),
  (['s', 't', 'a', 'r', ';'], [0x2606]),
  (['s', 't', 'a', 'r', 'f', ';'], [0x2605]),
  (['s', 't', 'r', 'a', 'i', 'g', 'h', 't', 'e', 'p', 's', 'i', 'l', 'o', 'n', ';'], [0x3F5]),
  (['s', 't', 'r', 'a', 'i', 'g', 'h', 't', 'p', 'h', 'i', ';'], [0x3D5]),
  (['s', 't', 'r', 'n', 's', ';'], [0xAF]),
  (['s', 'u', 'b', ';'], [0x2282]),
  (['s', 'u', 'b', 'E', ';'], [0x2AC5]),
  (['s', 'u', 'b', 'd', 'o', 't', ';'], [0x2ABD]),
  (['s', 'u', 'b', 'e', ';'], [0x2286]),
  (['s', 'u', 'b', 'e', 'd', 'o', 't', ';'], [0x2AC3]),
  (['s', 'u', 'b', 'm', 'u', 'l', 't', ';'], [0x2AC1]),
  (['s', 'u', 'b', 'n', 'E', ';'], [0x2ACB]),
  (['s', 'u', 'b', 'n', 'e', ';'], [0x228A]),
  (['s', 'u', 'b', 'p', 'l', 'u', 's', ';'], [0x2ABF]),
  (['s', 'u', 'b', 'r', 'a', 'r', 'r', ';'], [0x2979]),
  (['s', 'u', 'b', 's', 'e', 't', ';'], [0x2282]),
  (['s', 'u', 'b', 's', 'e', 't', 'e', 'q', ';'], [0x2286]),
  (['s', 'u', 'b', 's', 'e', 't', 'e', 'q', 'q', ';'], [0x2AC5]),
  (['s', 'u', 'b', 's', 'e', 't', 'n', 'e', 'q', ';'], [0x228A]),
  (['s', 'u', 'b', 's', 'e', 't', 'n', 'e', 'q', 'q', ';'], [0x2ACB]),
  (['s', 'u', 'b', 's', 'i', 'm', ';'], [0x2AC7]),
  (['s', 'u', 'b', 's', 'u', 'b', ';'], [0x2AD5]),
  (['s', 'u', 'b', 's', 'u', 'p', ';'], [0x2AD3]),
  (['s', 'u', 'c', 'c', ';'], [0x227B]),
  (['s', 'u', 'c', 'c', 'a', 'p', 'p', 'r', 'o', 'x', ';'], [0x2AB8]),
  (['s', 'u', 'c', 'c', 'c', 'u', 'r', 'l', 'y', 'e', 'q', ';'], [0x227D]),
  (['s', 'u', 'c', 'c', 'e', 'q', ';'], [0x2AB0]),
  (['s', 'u', 'c', 'c', 'n', 'a', 'p', 'p', 'r', 'o', 'x', ';'], [0x2ABA]),
  (['s', 'u', 'c', 'c', 'n', 'e', 'q', 'q', ';'], [0x2AB6]),
  (['s', 'u', 'c', 'c', 'n', 's', 'i', 'm', ';'], [0x22E9]),
  (['s', 'u', 'c', 'c', 's', 'i', 'm', ';'], [0x227F]),
  (['s', 'u', 'm', ';'], [0x2211]),
  (['s', 'u', 'n', 'g', ';'], [0x266A]),
  (['s', 'u', 'p', '1'], [0xB9]),
  (['s', 'u', 'p', '1', ';'], [0xB9]),
  (['s', 'u', 'p', '2'], [0xB2]),
  (['s', 'u', 'p', '2', ';'], [0xB2]),
  (['s', 'u', 'p', '3'], [0xB3]),
  (['s', 'u', 'p', '3', ';'], [0xB3]),
  (['s', 'u', 'p', ';'], [0x2283]),
  (['s', 'u', 'p', 'E', ';'], [0x2AC6]),
  (['s', 'u', 'p', 'd', 'o', 't', ';'], [0x2ABE]),
  (['s', 'u', 'p', 'd', 's', 'u', 'b', ';'], [0x2AD8]),
  (['s', 'u', 'p', 'e', ';'], [0x2287]),
  (['s', 'u', 'p', 'e', 'd', 'o', 't', ';'], [0x2AC4]),
  (['s', 'u', 'p', 'h', 's', 'o', 'l', ';'], [0x27C9]),
  (['s', 'u', 'p', 'h', 's', 'u', 'b', ';'], [0x2AD7]),
  (['s', 'u', 'p', 'l', 'a', 'r', 'r', ';'], [0x297B]),
  (['s', 'u', 'p', 'm', 'u', 'l', 't', ';'], [0x2AC2]),
  (['s', 'u', 'p', 'n', 'E', ';'], [0x2ACC]),
  (['s', 'u', 'p', 'n', 'e', ';'], [0x228B]),
  (['s', 'u', 'p', 'p', 'l', 'u', 's', ';'], [0x2AC0]),
  (['s', 'u', 'p', 's', 'e', 't', ';'], [0x2283]),
  (['s', 'u', 'p', 's', 'e', 't', 'e', 'q', ';'], [0x2287]),
  (['s', 'u', 'p', 's', 'e', 't', 'e', 'q', 'q', ';'], [0x2AC6]),
  (['s', 'u', 'p', 's', 'e', 't', 'n', 'e', 'q', ';'], [0x228B]),
  (['s', 'u', 'p', 's', 'e', 't', 'n', 'e', 'q', 'q', ';'], [0x2ACC]),
  (['s', 'u', 'p', 's', 'i', 'm', ';'], [0x2AC8]),
  (['s', 'u', 'p', 's', 'u', 'b', ';'], [0x2AD4]),
  (['s', 'u', 'p', 's', 'u', 'p', ';'], [0x2AD6]),
  (['s', 'w', 'A', 'r', 'r', ';'], [0x21D9]),
  (['s', 'w', 'a', 'r', 'h', 'k', ';'], [0x2926]),
  (['s', 'w', 'a', 'r', 'r', ';'], [0x2199]),
  (['s', 'w', 'a', 'r', 'r', 'o', 'w', ';'], [0x2199]),
  (['s', 'w', 'n', 'w', 'a', 'r', ';'], [0x292A]),
  (['s', 'z', 'l', 'i', 'g'], [0xDF]),
  (['s', 'z', 'l', 'i', 'g', ';'], [0xDF])]

/-- The names that start with `t`. -/
def smallT : List (List Char × Text) := [
  (['t', 'a', 'r', 'g', 'e', 't', ';'], [0x2316]),
  (['t', 'a', 'u', ';'], [0x3C4]),
  (['t', 'b', 'r', 'k', ';'], [0x23B4]),
  (['t', 'c', 'a', 'r', 'o', 'n', ';'], [0x165]),
  (['t', 'c', 'e', 'd', 'i', 'l', ';'], [0x163]),
  (['t', 'c', 'y', ';'], [0x442]),
  (['t', 'd', 'o', 't', ';'], [0x20DB]),
  (['t', 'e', 'l', 'r', 'e', 'c', ';'], [0x2315]),
  (['t', 'f', 'r', ';'], [0x1D531]),
  (['t', 'h', 'e', 'r', 'e', '4', ';'], [0x2234]),
  (['t', 'h', 'e', 'r', 'e', 'f', 'o', 'r', 'e', ';'], [0x2234]),
  (['t', 'h', 'e', 't', 'a', ';'], [0x3B8]),
  (['t', 'h', 'e', 't', 'a', 's', 'y', 'm', ';'], [0x3D1]),
  (['t', 'h', 'e', 't', 'a', 'v', ';'], [0x3D1]),
  (['t', 'h', 'i', 'c', 'k', 'a', 'p', 'p', 'r', 'o', 'x', ';'], [0x2248]),
  (['t', 'h', 'i', 'c', 'k', 's', 'i', 'm', ';'], [0x223C]),
  (['t', 'h', 'i', 'n', 's', 'p', ';'], [0x2009]),
  (['t', 'h', 'k', 'a', 'p', ';'], [0x2248]),
  (['t', 'h', 'k', 's', 'i', 'm', ';'], [0x223C]),
  (['t', 'h', 'o', 'r', 'n'], [0xFE]),
  (['t', 'h', 'o', 'r', 'n', ';'], [0xFE]),
  (['t', 'i', 'l', 'd', 'e', ';'], [0x2DC]),
  (['t', 'i', 'm', 'e', 's'], [0xD7]),
  (['t', 'i', 'm', 'e', 's', ';'], [0xD7]),
  (['t', 'i', 'm', 'e', 's', 'b', ';'], [0x22A0]),
  (['t', 'i', 'm', 'e', 's', 'b', 'a', 'r', ';'], [0x2A31]),
  (['t', 'i', 'm', 'e', 's', 'd', ';'], [0x2A30]),
  (['t', 'i', 'n', 't', ';'], [0x222D]),
  (['t', 'o', 'e', 'a', ';'], [0x2928]),
  (['t', 'o', 'p', ';'], [0x22A4]),
  (['t', 'o', 'p', 'b', 'o', 't', ';'], [0x2336]),
  (['t', 'o', 'p', 'c', 'i', 'r', ';'], [0x2AF1]),
  (['t', 'o', 'p', 'f', ';'], [0x1D565]),
  (['t', 'o', 'p', 'f', 'o', 'r', 'k', ';'], [0x2ADA]),
  (['t', 'o', 's', 'a', ';'], [0x2929]),
  (['t', 'p', 'r', 'i', 'm', 'e', ';'], [0x2034]),
  (['t', 'r', 'a', 'd', 'e', ';'], [0x2122]),
  (['t', 'r', 'i', 'a', 'n', 'g', 'l', 'e', ';'], [0x25B5]),
  (['t', 'r', 'i', 'a', 'n', 'g', 'l', 'e', 'd', 'o', 'w', 'n', ';'], [0x25BF]),
  (['t', 'r', 'i', 'a', 'n', 'g', 'l', 'e', 'l', 'e', 'f', 't', ';'], [0x25C3]),
  (['t', 'r', 'i', 'a', 'n', 'g', 'l', 'e', 'l', 'e', 'f', 't', 'e', 'q', ';'], [0x22B4]),
  (['t', 'r', 'i', 'a', 'n', 'g', 'l', 'e', 'q', ';'], [0x225C]),
  (['t', 'r', 'i', 'a', 'n', 'g', 'l', 'e', 'r', 'i', 'g', 'h', 't', ';'], [0x25B9]),
  (['t', 'r', 'i', 'a', 'n', 'g', 'l', 'e', 'r', 'i', 'g', 'h', 't', 'e', 'q', ';'], [0x22B5]),
  (['t', 'r', 'i', 'd', 'o', 't', ';'], [0x25EC]),
  (['t', 'r', 'i', 'e', ';'], [0x225C]),
  (['t', 'r', 'i', 'm', 'i', 'n', 'u', 's', ';'], [0x2A3A]),
  (['t', 'r', 'i', 'p', 'l', 'u', 's', ';'], [0x2A39]),
  (['t', 'r', 'i', 's', 'b', ';'], [0x29CD]),
  (['t', 'r', 'i', 't', 'i', 'm', 'e', ';'], [0x2A3B]),
  (['t', 'r', 'p', 'e', 'z', 'i', 'u', 'm', ';'], [0x23E2]),
  (['t', 's', 'c', 'r', ';'], [0x1D4C9]),
  (['t', 's', 'c', 'y', ';'], [0x446]),
  (['t', 's', 'h', 'c', 'y', ';'], [0x45B]),
  (['t', 's', 't', 'r', 'o', 'k', ';'], [0x167]),
  (['t', 'w', 'i', 'x', 't', ';'], [0x226C]),
  (['t', 'w', 'o', 'h', 'e', 'a', 'd', 'l', 'e', 'f', 't', 'a', 'r', 'r', 'o', 'w', ';'],
    [0x219E]),
  (['t', 'w', 'o', 'h', 'e', 'a', 'd', 'r', 'i', 'g', 'h', 't', 'a', 'r', 'r', 'o', 'w', ';'],
    [0x21A0])]

/-- The names that start with `u`. -/
def smallU : List (List Char × Text) := [
  (['u', 'A', 'r', 'r', ';'], [0x21D1]),
  (['u', 'H', 'a', 'r', ';'], [0x2963]),
  (['u', 'a', 'c', 'u', 't', 'e'], [0xFA]),
  (['u', 'a', 'c', 'u', 't', 'e', ';'], [0xFA]),
  (['u', 'a', 'r', 'r', ';'], [0x2191]),
  (['u', 'b', 'r', 'c', 'y', ';'], [0x45E]),
  (['u', 'b', 'r', 'e', 'v', 'e', ';'], [0x16D]),
  (['u', 'c', 'i', 'r', 'c'], [0xFB]),
  (['u', 'c', 'i', 'r', 'c', ';'], [0xFB]),
  (['u', 'c', 'y', ';'], [0x443]),
  (['u', 'd', 'a', 'r', 'r', ';'], [0x21C5]),
  (['u', 'd', 'b', 'l', 'a', 'c', ';'], [0x171]),
  (['u', 'd', 'h', 'a', 'r', ';'], [0x296E]),
  (['u', 'f', 'i', 's', 'h', 't', ';'], [0x297E]),
  (['u', 'f', 'r', ';'], [0x1D532]),
  (['u', 'g', 'r', 'a', 'v', 'e'], [0xF9]),
  (['u', 'g', 'r', 'a', 'v', 'e', ';'], [0xF9]),
  (['u', 'h', 'a', 'r', 'l', ';'], [0x21BF]),
  (['u', 'h', 'a', 'r', 'r', ';'], [0x21BE]),
  (['u', 'h', 'b', 'l', 'k', ';'], [0x2580]),
  (['u', 'l', 'c', 'o', 'r', 'n', ';'], [0x231C]),
  (['u', 'l', 'c', 'o', 'r', 'n', 'e', 'r', ';'], [0x231C]),
  (['u', 'l', 'c', 'r', 'o', 'p', ';'], [0x230F]),
  (['u', 'l', 't', 'r', 'i', ';'], [0x25F8]),
  (['u', 'm', 'a', 'c', 'r', ';'], [0x16B]),
  (['u', 'm', 'l'], [0xA8]),
  (['u', 'm', 'l', ';'], [0xA8]),
  (['u', 'o', 'g', 'o', 'n', ';'], [0x173]),
  (['u', 'o', 'p', 'f', ';'], [0x1D566]),
  (['u', 'p', 'a', 'r', 'r', 'o', 'w', ';'], [0x2191]),
  (['u', 'p', 'd', 'o', 'w', 'n', 'a', 'r', 'r', 'o', 'w', ';'], [0x2195]),
  (['u', 'p', 'h', 'a', 'r', 'p', 'o', 'o', 'n', 'l', 'e', 'f', 't', ';'], [0x21BF]),
  (['u', 'p', 'h', 'a', 'r', 'p', 'o', 'o', 'n', 'r', 'i', 'g', 'h', 't', ';'], [0x21BE]),
  (['u', 'p', 'l', 'u', 's', ';'], [0x228E]),
  (['u', 'p', 's', 'i', ';'], [0x3C5]),
  (['u', 'p', 's', 'i', 'h', ';'], [0x3D2]),
  (['u', 'p', 's', 'i', 'l', 'o', 'n', ';'], [0x3C5]),
  (['u', 'p', 'u', 'p', 'a', 'r', 'r', 'o', 'w', 's', ';'], [0x21C8]),
  (['u', 'r', 'c', 'o', 'r', 'n', ';'], [0x231D]),
  (['u', 'r', 'c', 'o', 'r', 'n', 'e', 'r', ';'], [0x231D]),
  (['u', 'r', 'c', 'r', 'o', 'p', ';'], [0x230E]),
  (['u', 'r', 'i', 'n', 'g', ';'], [0x16F]),
  (['u', 'r', 't', 'r', 'i', ';'], [0x25F9]),
  (['u', 's', 'c', 'r', ';'], [0x1D4CA]),
  (['u', 't', 'd', 'o', 't', ';'], [0x22F0]),
  (['u', 't', 'i', 'l', 'd', 'e', ';'], [0x169]),
  (['u', 't', 'r', 'i', ';'], [0x25B5]),
  (['u', 't', 'r', 'i', 'f', ';'], [0x25B4]),
  (['u', 'u', 'a', 'r', 'r', ';'], [0x21C8]),
  (['u', 'u', 'm', 'l'], [0xFC]),
  (['u', 'u', 'm', 'l', ';'], [0xFC]),
  (['u', 'w', 'a', 'n', 'g', 'l', 'e', ';'], [0x29A7])]

/-- The names that start with `v`. -/
def smallV : List (List Char × Text) := [
  (['v', 'A', 'r', 'r', ';'], [0x21D5]),
  (['v', 'B', 'a', 'r', ';'], [0x2AE8]),
  (['v', 'B', 'a', 'r', 'v', ';'], [0x2AE9]),
  (['v', 'D', 'a', 's', 'h', ';'], [0x22A8]),
  (['v', 'a', 'n', 'g', 'r', 't', ';'], [0x299C]),
  (['v', 'a', 'r', 'e', 'p', 's', 'i', 'l', 'o', 'n', ';'], [0x3F5]),
  (['v', 'a', 'r', 'k', 'a', 'p', 'p', 'a', ';'], [0x3F0]),
  (['v', 'a', 'r', 'n', 'o', 't', 'h', 'i', 'n', 'g', ';'], [0x2205]),
  (['v', 'a', 'r', 'p', 'h', 'i', ';'], [0x3D5]),
  (['v', 'a', 'r', 'p', 'i', ';'], [0x3D6]),
  (['v', 'a', 'r', 'p', 'r', 'o', 'p', 't', 'o', ';'], [0x221D]),
  (['v', 'a', 'r', 'r', ';'], [0x2195]),
  (['v', 'a', 'r', 'r', 'h', 'o', ';'], [0x3F1]),
  (['v', 'a', 'r', 's', 'i', 'g', 'm', 'a', ';'], [0x3C2]),
  (['v', 'a', 'r', 's', 'u', 'b', 's', 'e', 't', 'n', 'e', 'q', ';'], [0x228A, 0xFE00]),
  (['v', 'a', 'r', 's', 'u', 'b', 's', 'e', 't', 'n', 'e', 'q', 'q', ';'], [0x2ACB, 0xFE00]),
  (['v', 'a', 'r', 's', 'u', 'p', 's', 'e', 't', 'n', 'e', 'q', ';'], [0x228B, 0xFE00]),
  (['v', 'a', 'r', 's', 'u', 'p', 's', 'e', 't', 'n', 'e', 'q', 'q', ';'], [0x2ACC, 0xFE00]),
  (['v', 'a', 'r', 't', 'h', 'e', 't', 'a', ';'], [0x3D1]),
  (['v', 'a', 'r', 't', 'r', 'i', 'a', 'n', 'g', 'l', 'e', 'l', 'e', 'f', 't', ';'], [0x22B2]),
  (['v', 'a', 'r', 't', 'r', 'i', 'a', 'n', 'g', 'l', 'e', 'r', 'i', 'g', 'h', 't', ';'],
    [0x22B3]),
  (['v', 'c', 'y', ';'], [0x432]),
  (['v', 'd', 'a', 's', 'h', ';'], [0x22A2]),
  (['v', 'e', 'e', ';'], [0x2228]),
  (['v', 'e', 'e', 'b', 'a', 'r', ';'], [0x22BB]),
  (['v', 'e', 'e', 'e', 'q', ';'], [0x225A]),
  (['v', 'e', 'l', 'l', 'i', 'p', ';'], [0x22EE]),
  (['v', 'e', 'r', 'b', 'a', 'r', ';'], [0x7C]),
  (['v', 'e', 'r', 't', ';'], [0x7C]),
  (['v', 'f', 'r', ';'], [0x1D533]),
  (['v', 'l', 't', 'r', 'i', ';'], [0x22B2]),
  (['v', 'n', 's', 'u', 'b', ';'], [0x2282, 0x20D2]),
  (['v', 'n', 's', 'u', 'p', ';'], [0x2283, 0x20D2]),
  (['v', 'o', 'p', 'f', ';'], [0x1D567]),
  (['v', 'p', 'r', 'o', 'p', ';'], [0x221D]),
  (['v', 'r', 't', 'r', 'i', ';'], [0x22B3]),
  (['v', 's', 'c', 'r', ';'], [0x1D4CB]),
  (['v', 's', 'u', 'b', 'n', 'E', ';'], [0x2ACB, 0xFE00]),
  (['v', 's', 'u', 'b', 'n', 'e', ';'], [0x228A, 0xFE00]),
  (['v', 's', 'u', 'p', 'n', 'E', ';'], [0x2ACC, 0xFE00]),
  (['v', 's', 'u', 'p', 'n', 'e', ';'], [0x228B, 0xFE00]),
  (['v', 'z', 'i', 'g', 'z', 'a', 'g', ';'], [0x299A])]

/-- The names that start with `w`. -/
def smallW : List (List Char × Text) := [
  (['w', 'c', 'i', 'r', 'c', ';'], [0x175]),
  (['w', 'e', 'd', 'b', 'a', 'r', ';'], [0x2A5F]),
  (['w', 'e', 'd', 'g', 'e', ';'], [0x2227]),
  (['w', 'e', 'd', 'g', 'e', 'q', ';'], [0x2259]),
  (['w', 'e', 'i', 'e', 'r', 'p', ';'], [0x2118]),
  (['w', 'f', 'r', ';'], [0x1D534]),
  (['w', 'o', 'p', 'f', ';'], [0x1D568]),
  (['w', 'p', ';'], [0x2118]),
  (['w', 'r', ';'], [0x2240]),
  (['w', 'r', 'e', 'a', 't', 'h', ';'], [0x2240]),
  (['w', 's', 'c', 'r', ';'], [0x1D4CC])]

/-- The names that start with `x`. -/
def smallX : List (List Char × Text) := [
  (['x', 'c', 'a', 'p', ';'], [0x22C2]),
  (['x', 'c', 'i', 'r', 'c', ';'], [0x25EF]),
  (['x', 'c', 'u', 'p', ';'], [0x22C3]),
  (['x', 'd', 't', 'r', 'i', ';'], [0x25BD]),
  (['x', 'f', 'r', ';'], [0x1D535]),
  (['x', 'h', 'A', 'r', 'r', ';'], [0x27FA]),
  (['x', 'h', 'a', 'r', 'r', ';'], [0x27F7]),
  (['x', 'i', ';'], [0x3BE]),
  (['x', 'l', 'A', 'r', 'r', ';'], [0x27F8]),
  (['x', 'l', 'a', 'r', 'r', ';'], [0x27F5]),
  (['x', 'm', 'a', 'p', ';'], [0x27FC]),
  (['x', 'n', 'i', 's', ';'], [0x22FB]),
  (['x', 'o', 'd', 'o', 't', ';'], [0x2A00]),
  (['x', 'o', 'p', 'f', ';'], [0x1D569]),
  (['x', 'o', 'p', 'l', 'u', 's', ';'], [0x2A01]),
  (['x', 'o', 't', 'i', 'm', 'e', ';'], [0x2A02]),
  (['x', 'r', 'A', 'r', 'r', ';'], [0x27F9]),
  (['x', 'r', 'a', 'r', 'r', ';'], [0x27F6]),
  (['x', 's', 'c', 'r', ';'], [0x1D4CD]),
  (['x', 's', 'q', 'c', 'u', 'p', ';'], [0x2A06]),
  (['x', 'u', 'p', 'l', 'u', 's', ';'], [0x2A04]),
  (['x', 'u', 't', 'r', 'i', ';'], [0x25B3]),
  (['x', 'v', 'e', 'e', ';'], [0x22C1]),
  (['x', 'w', 'e', 'd', 'g', 'e', ';'], [0x22C0])]

/-- The names that start with `y`. -/
def smallY : List (List Char × Text) := [
  (['y', 'a', 'c', 'u', 't', 'e'], [0xFD]),
  (['y', 'a', 'c', 'u', 't', 'e', ';'], [0xFD]),
  (['y', 'a', 'c', 'y', ';'], [0x44F]),
  (['y', 'c', 'i', 'r', 'c', ';'], [0x177]),
  (['y', 'c', 'y', ';'], [0x44B]),
  (['y', 'e', 'n'], [0xA5]),
  (['y', 'e', 'n', ';'], [0xA5]),
  (['y', 'f', 'r', ';'], [0x1D536]),
  (['y', 'i', 'c', 'y', ';'], [0x457]),
  (['y', 'o', 'p', 'f', ';'], [0x1D56A]),
  (['y', 's', 'c', 'r', ';'], [0x1D4CE]),
  (['y', 'u', 'c', 'y', ';'], [0x44E]),
  (['y', 'u', 'm', 'l'], [0xFF]),
  (['y', 'u', 'm', 'l', ';'], [0xFF])]

/-- The names that start with `z`. -/
def smallZ : List (List Char × Text) := [
  (['z', 'a', 'c', 'u', 't', 'e', ';'], [0x17A]),
  (['z', 'c', 'a', 'r', 'o', 'n', ';'], [0x17E]),
  (['z', 'c', 'y', ';'], [0x437]),
  (['z', 'd', 'o', 't', ';'], [0x17C]),
  (['z', 'e', 'e', 't', 'r', 'f', ';'], [0x2128]),
  (['z', 'e', 't', 'a', ';'], [0x3B6]),
  (['z', 'f', 'r', ';'], [0x1D537]),
  (['z', 'h', 'c', 'y', ';'], [0x436]),
  (['z', 'i', 'g', 'r', 'a', 'r', 'r', ';'], [0x21DD]),
  (['z', 'o', 'p', 'f', ';'], [0x1D56B]),
  (['z', 's', 'c', 'r', ';'], [0x1D4CF]),
  (['z', 'w', 'j', ';'], [0x200D]),
  (['z', 'w', 'n', 'j', ';'], [0x200C])]

/-- All names that start with `p` to `z`. -/
def pToZNames : List (List Char × Text) :=
  smallP ++ smallQ ++ smallR ++ smallS ++ smallT ++ smallU ++ smallV ++ smallW ++ smallX ++
    smallY ++ smallZ

end TokenConformance.Reference
