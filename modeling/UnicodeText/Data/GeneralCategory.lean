import UnicodeText.Table.Block

namespace UnicodeText.Data

def generalCategory : BlockTable 8 256 where
  span := 4352
  index := .ofRows 32 [
    0x000102030405060708090A0B0C0D0E0F10111213141115161718191A1B1C1D1E,
    0x1F20212223242526272821292A2B2C2D2E2F3027111111111111111111111111,
    0x1111111111111111111111111131111111111111111111111111111111111111,
    0x1111111111111111111111111111111111111111111111111111111111111111,
    0x1111111111111111111111111111111111111111111111111111111111111111,
    0x3211111133113435363738391111111111111111111111111111111111111111,
    0x11111111111111111111111111111111111111111111113A3B3B3B3B3B3B3B3B,
    0x3C3C3C3C3C3C3C3C3C3C3C3C3C3C3C3C3C3C3C3C3C3C3C3C3C113D3E113F4041,
    0x4243444546471148494A4B4C4D4E4F505152535455565758595A5B5C5D5E5F60,
    0x1111116162636464646464646464646511111111666464646464646464646464,
    0x6464646411116764646464646464646464646464646464646464646464646464,
    0x64646464646464641111686964646A6B11111111111111111111111111111111,
    0x111111111111116C111111116D6E646464646464646464646464646464646464,
    0x6464646464646464646464646464646F11707164646464646464646472646464,
    0x646464646464646464646464646464737475767778797A7B27277C646464647D,
    0x7E7F806481646482838464648586876488898A8B27278C8D8E278F9064646464,
    0x1111111111111111111111111111111111111111111111111111111111111111,
    0x1111111111111111111111111111111111111111111111111111111111111111,
    0x1111111111111111111111111111111111111111111111111111111111111111,
    0x1111111111111111111111111111111111111111111111111111111111111111,
    0x1111111111111111111111111111111111111111111111111111111111111111,
    0x1111111111119111111111111111111111111111111111929311111111111111,
    0x1111111111111111111111111111941111111111111111111111111111111111,
    0x1111111111111111111111951111966464646464646464641111976464646464,
    0x1111111111111111111111111111111111111198111111111111111111111111,
    0x1111119964646464646464646464646464646464646464646464646464646464,
    0x6464646464646464646464646464646464646464646464646464646464646464,
    0x6464646464646464646464646464646464646464646464646464646464646464,
    0x6464646464646464646464646464646464646464646464646464646464646464,
    0x6464646464646464646464646464646464646464646464646464646464646464,
    0x6464646464646464646464646464646464646464646464646464646464646464,
    0x6464646464646464646464646464646464646464646464646464646464646464,
    0x6464646464646464646464646464646464646464646464646464646464646464,
    0x6464646464646464646464646464646464646464646464646464646464646464,
    0x6464646464646464646464646464646464646464646464646464646464646464,
    0x6464646464646464646464646464646464646464646464646464646464646464,
    0x6464646464646464646464646464646464646464646464646464646464646464,
    0x6464646464646464646464646464646464646464646464646464646464646464,
    0x6464646464646464646464646464646464646464646464646464646464646464,
    0x6464646464646464646464646464646464646464646464646464646464646464,
    0x6464646464646464646464646464646464646464646464646464646464646464,
    0x6464646464646464646464646464646464646464646464646464646464646464,
    0x6464646464646464646464646464646464646464646464646464646464646464,
    0x6464646464646464646464646464646464646464646464646464646464646464,
    0x6464646464646464646464646464646464646464646464646464646464646464,
    0x6464646464646464646464646464646464646464646464646464646464646464,
    0x6464646464646464646464646464646464646464646464646464646464646464,
    0x6464646464646464646464646464646464646464646464646464646464646464,
    0x6464646464646464646464646464646464646464646464646464646464646464,
    0x6464646464646464646464646464646464646464646464646464646464646464,
    0x6464646464646464646464646464646464646464646464646464646464646464,
    0x6464646464646464646464646464646464646464646464646464646464646464,
    0x6464646464646464646464646464646464646464646464646464646464646464,
    0x6464646464646464646464646464646464646464646464646464646464646464,
    0x6464646464646464646464646464646464646464646464646464646464646464,
    0x6464646464646464646464646464646464646464646464646464646464646464,
    0x6464646464646464646464646464646464646464646464646464646464646464,
    0x6464646464646464646464646464646464646464646464646464646464646464,
    0x6464646464646464646464646464646464646464646464646464646464646464,
    0x6464646464646464646464646464646464646464646464646464646464646464,
    0x6464646464646464646464646464646464646464646464646464646464646464,
    0x6464646464646464646464646464646464646464646464646464646464646464,
    0x6464646464646464646464646464646464646464646464646464646464646464,
    0x6464646464646464646464646464646464646464646464646464646464646464,
    0x6464646464646464646464646464646464646464646464646464646464646464,
    0x6464646464646464646464646464646464646464646464646464646464646464,
    0x6464646464646464646464646464646464646464646464646464646464646464,
    0x6464646464646464646464646464646464646464646464646464646464646464,
    0x6464646464646464646464646464646464646464646464646464646464646464,
    0x6464646464646464646464646464646464646464646464646464646464646464,
    0x6464646464646464646464646464646464646464646464646464646464646464,
    0x6464646464646464646464646464646464646464646464646464646464646464,
    0x6464646464646464646464646464646464646464646464646464646464646464,
    0x6464646464646464646464646464646464646464646464646464646464646464,
    0x6464646464646464646464646464646464646464646464646464646464646464,
    0x6464646464646464646464646464646464646464646464646464646464646464,
    0x6464646464646464646464646464646464646464646464646464646464646464,
    0x6464646464646464646464646464646464646464646464646464646464646464,
    0x6464646464646464646464646464646464646464646464646464646464646464,
    0x6464646464646464646464646464646464646464646464646464646464646464,
    0x6464646464646464646464646464646464646464646464646464646464646464,
    0x6464646464646464646464646464646464646464646464646464646464646464,
    0x6464646464646464646464646464646464646464646464646464646464646464,
    0x6464646464646464646464646464646464646464646464646464646464646464,
    0x6464646464646464646464646464646464646464646464646464646464646464,
    0x6464646464646464646464646464646464646464646464646464646464646464,
    0x6464646464646464646464646464646464646464646464646464646464646464,
    0x6464646464646464646464646464646464646464646464646464646464646464,
    0x6464646464646464646464646464646464646464646464646464646464646464,
    0x6464646464646464646464646464646464646464646464646464646464646464,
    0x6464646464646464646464646464646464646464646464646464646464646464,
    0x6464646464646464646464646464646464646464646464646464646464646464,
    0x6464646464646464646464646464646464646464646464646464646464646464,
    0x6464646464646464646464646464646464646464646464646464646464646464,
    0x6464646464646464646464646464646464646464646464646464646464646464,
    0x6464646464646464646464646464646464646464646464646464646464646464,
    0x6464646464646464646464646464646464646464646464646464646464646464,
    0x6464646464646464646464646464646464646464646464646464646464646464,
    0x6464646464646464646464646464646464646464646464646464646464646464,
    0x6464646464646464646464646464646464646464646464646464646464646464,
    0x6464646464646464646464646464646464646464646464646464646464646464,
    0x6464646464646464646464646464646464646464646464646464646464646464,
    0x6464646464646464646464646464646464646464646464646464646464646464,
    0x6464646464646464646464646464646464646464646464646464646464646464,
    0x6464646464646464646464646464646464646464646464646464646464646464,
    0x6464646464646464646464646464646464646464646464646464646464646464,
    0x6464646464646464646464646464646464646464646464646464646464646464,
    0x6464646464646464646464646464646464646464646464646464646464646464,
    0x6464646464646464646464646464646464646464646464646464646464646464,
    0x6464646464646464646464646464646464646464646464646464646464646464,
    0x6464646464646464646464646464646464646464646464646464646464646464,
    0x6464646464646464646464646464646464646464646464646464646464646464,
    0x9A9B646464646464646464646464646464646464646464646464646464646464,
    0x6464646464646464646464646464646464646464646464646464646464646464,
    0x6464646464646464646464646464646464646464646464646464646464646464,
    0x6464646464646464646464646464646464646464646464646464646464646464,
    0x6464646464646464646464646464646464646464646464646464646464646464,
    0x6464646464646464646464646464646464646464646464646464646464646464,
    0x6464646464646464646464646464646464646464646464646464646464646464,
    0x6464646464646464646464646464646464646464646464646464646464646464,
    0x3C3C3C3C3C3C3C3C3C3C3C3C3C3C3C3C3C3C3C3C3C3C3C3C3C3C3C3C3C3C3C3C,
    0x3C3C3C3C3C3C3C3C3C3C3C3C3C3C3C3C3C3C3C3C3C3C3C3C3C3C3C3C3C3C3C3C,
    0x3C3C3C3C3C3C3C3C3C3C3C3C3C3C3C3C3C3C3C3C3C3C3C3C3C3C3C3C3C3C3C3C,
    0x3C3C3C3C3C3C3C3C3C3C3C3C3C3C3C3C3C3C3C3C3C3C3C3C3C3C3C3C3C3C3C3C,
    0x3C3C3C3C3C3C3C3C3C3C3C3C3C3C3C3C3C3C3C3C3C3C3C3C3C3C3C3C3C3C3C3C,
    0x3C3C3C3C3C3C3C3C3C3C3C3C3C3C3C3C3C3C3C3C3C3C3C3C3C3C3C3C3C3C3C3C,
    0x3C3C3C3C3C3C3C3C3C3C3C3C3C3C3C3C3C3C3C3C3C3C3C3C3C3C3C3C3C3C3C3C,
    0x3C3C3C3C3C3C3C3C3C3C3C3C3C3C3C3C3C3C3C3C3C3C3C3C3C3C3C3C3C3C3C9C,
    0x3C3C3C3C3C3C3C3C3C3C3C3C3C3C3C3C3C3C3C3C3C3C3C3C3C3C3C3C3C3C3C3C,
    0x3C3C3C3C3C3C3C3C3C3C3C3C3C3C3C3C3C3C3C3C3C3C3C3C3C3C3C3C3C3C3C3C,
    0x3C3C3C3C3C3C3C3C3C3C3C3C3C3C3C3C3C3C3C3C3C3C3C3C3C3C3C3C3C3C3C3C,
    0x3C3C3C3C3C3C3C3C3C3C3C3C3C3C3C3C3C3C3C3C3C3C3C3C3C3C3C3C3C3C3C3C,
    0x3C3C3C3C3C3C3C3C3C3C3C3C3C3C3C3C3C3C3C3C3C3C3C3C3C3C3C3C3C3C3C3C,
    0x3C3C3C3C3C3C3C3C3C3C3C3C3C3C3C3C3C3C3C3C3C3C3C3C3C3C3C3C3C3C3C3C,
    0x3C3C3C3C3C3C3C3C3C3C3C3C3C3C3C3C3C3C3C3C3C3C3C3C3C3C3C3C3C3C3C3C,
    0x3C3C3C3C3C3C3C3C3C3C3C3C3C3C3C3C3C3C3C3C3C3C3C3C3C3C3C3C3C3C3C9C]
  count := 157
  cells := .ofRows 32 [
    0x1A1A1A1A1A1A1A1A1A1A1A1A1A1A1A1A1A1A1A1A1A1A1A1A1A1A1A1A1A1A1A1A,
    0x17121212141212120E0F1213120D121209090909090909090909121213131312,
    0x1201010101010101010101010101010101010101010101010101010E120F150C,
    0x1502020202020202020202020202020202020202020202020202020E130F131A,
    0x1A1A1A1A1A1A1A1A1A1A1A1A1A1A1A1A1A1A1A1A1A1A1A1A1A1A1A1A1A1A1A1A,
    0x171214141414161215160510131B161516130B0B15021212150B05110B0B0B12,
    0x0101010101010101010101010101010101010101010101130101010101010102,
    0x0202020202020202020202020202020202020202020202130202020202020202,
    0x0102010201020102010201020102010201020102010201020102010201020102,
    0x0102010201020102010201020102010201020102010201020201020102010201,
    0x0201020102010201020201020102010201020102010201020102010201020102,
    0x0102010201020102010201020102010201020102010201020101020102010202,
    0x0201010201020101020101010202010101010201010201010102020201010201,
    0x0102010201020101020102020102010102010101020102010102020501020202,
    0x0505050501030201030201030201020102010201020102010201020102020102,
    0x0102010201020102010201020102010202010302010201010102010201020102,
    0x0102010201020102010201020102010201020102010201020102010201020102,
    0x0102010201020102010201020102010201020102020202020202010102010102,
    0x0201020101010102010201020102010202020202020202020202020202020202,
    0x0202020202020202020202020202020202020202020202020202020202020202,
    0x0202020202020202020202020202020202020202050202020202020202020202,
    0x0202020202020202020202020202020204040404040404040404040404040404,
    0x0404151515150404040404040404040404041515151515151515151515151515,
    0x0404040404151515151515150415041515151515151515151515151515151515,
    0x0606060606060606060606060606060606060606060606060606060606060606,
    0x0606060606060606060606060606060606060606060606060606060606060606,
    0x0606060606060606060606060606060606060606060606060606060606060606,
    0x0606060606060606060606060606060601020102041501021E1E040202021201,
    0x1E1E1E1E151501120101011E011E010102010101010101010101010101010101,
    0x01011E0101010101010101010202020202020202020202020202020202020202,
    0x0202020202020202020202020202020102020101010202020102010201020102,
    0x0102010201020102010201020102010202020202010213010201010202010101,
    0x0101010101010101010101010101010101010101010101010101010101010101,
    0x0101010101010101010101010101010102020202020202020202020202020202,
    0x0202020202020202020202020202020202020202020202020202020202020202,
    0x0102010201020102010201020102010201020102010201020102010201020102,
    0x0102160606060606080801020102010201020102010201020102010201020102,
    0x0102010201020102010201020102010201020102010201020102010201020102,
    0x0101020102010201020102010201020201020102010201020102010201020102,
    0x0102010201020102010201020102010201020102010201020102010201020102,
    0x0102010201020102010201020102010201020102010201020102010201020102,
    0x010201020102010201020102010201021E010101010101010101010101010101,
    0x01010101010101010101010101010101010101010101011E1E04121212121212,
    0x0202020202020202020202020202020202020202020202020202020202020202,
    0x020202020202020202120D1E1E1616141E060606060606060606060606060606,
    0x0606060606060606060606060606060606060606060606060606060606060D06,
    0x12060612060612061E1E1E1E1E1E1E1E05050505050505050505050505050505,
    0x05050505050505050505051E1E1E1E0505050512121E1E1E1E1E1E1E1E1E1E1E,
    0x1B1B1B1B1B1B131313121214121216160606060606060606060606121B121212,
    0x0505050505050505050505050505050505050505050505050505050505050505,
    0x0405050505050505050505060606060606060606060606060606060606060606,
    0x0909090909090909090912121212050506050505050505050505050505050505,
    0x0505050505050505050505050505050505050505050505050505050505050505,
    0x0505050505050505050505050505050505050505050505050505050505050505,
    0x05050505050505050505050505050505050505051205060606060606061B1606,
    0x0606060606040406061606060606050509090909090909090909050505161605,
    0x12121212121212121212121212121E1B05060505050505050505050505050505,
    0x0505050505050505050505050505050506060606060606060606060606060606,
    0x06060606060606060606061E1E05050505050505050505050505050505050505,
    0x0505050505050505050505050505050505050505050505050505050505050505,
    0x0505050505050505050505050505050505050505050505050505050505050505,
    0x0505050505050606060606060606060606051E1E1E1E1E1E1E1E1E1E1E1E1E1E,
    0x0909090909090909090905050505050505050505050505050505050505050505,
    0x0505050505050505050505060606060606060606040416121212041E1E061414,
    0x0505050505050505050505050505050505050505050506060606040606060606,
    0x06060606040606060406060606061E1E1212121212121212121212121212121E,
    0x050505050505050505050505050505050505050505050505050606061E1E121E,
    0x05050505050505050505051E1E1E1E1E05050505050505050505050505050505,
    0x0505050505050505150505050505051E1B1B1E1E1E1E1E1E0606060606060606,
    0x0505050505050505050505050505050505050505050505050505050505050505,
    0x0505050505050505050406060606060606060606060606060606060606060606,
    0x06061B0606060606060606060606060606060606060606060606060606060606,
    0x0606060705050505050505050505050505050505050505050505050505050505,
    0x0505050505050505050505050505050505050505050505050505060706050707,
    0x0706060606060606060707070706070705060606060606060505050505050505,
    0x0505060612120909090909090909090912040505050505050505050505050505,
    0x050607071E05050505050505051E1E05051E1E05050505050505050505050505,
    0x0505050505050505051E050505050505051E051E1E1E050505051E1E06050707,
    0x07060606061E1E07071E1E070706051E1E1E1E1E1E1E1E071E1E1E1E05051E05,
    0x050506061E1E09090909090909090909050514140B0B0B0B0B0B16140512061E,
    0x1E0606071E0505050505051E1E1E1E05051E1E05050505050505050505050505,
    0x0505050505050505051E050505050505051E05051E05051E05051E1E061E0707,
    0x0706061E1E1E1E06061E1E0606061E1E1E061E1E1E1E1E1E1E050505051E051E,
    0x1E1E1E1E1E1E09090909090909090909060605050506121E1E1E1E1E1E1E1E1E,
    0x1E0606071E0505050505050505051E0505051E05050505050505050505050505,
    0x0505050505050505051E050505050505051E05051E05050505051E1E06050707,
    0x0706060606061E0606071E0707061E1E051E1E1E1E1E1E1E1E1E1E1E1E1E1E1E,
    0x050506061E1E0909090909090909090912141E1E1E1E1E1E1E05060606060606,
    0x1E0607071E05050505050505051E1E05051E1E05050505050505050505050505,
    0x0505050505050505051E050505050505051E05051E05050505051E1E06050706,
    0x07060606061E1E07071E1E0707061E1E1E1E1E1E1E0606071E1E1E1E05051E05,
    0x050506061E1E0909090909090909090916050B0B0B0B0B0B1E1E1E1E1E1E1E1E,
    0x1E1E06051E0505050505051E1E1E0505051E050505051E1E1E05051E051E0505,
    0x1E1E1E05051E1E1E0505051E1E1E0505050505050505050505051E1E1E1E0707,
    0x0607071E1E1E0707071E070707061E1E051E1E1E1E1E1E071E1E1E1E1E1E1E1E,
    0x1E1E1E1E1E1E090909090909090909090B0B0B16161616161614161E1E1E1E1E,
    0x060707070605050505050505051E0505051E0505050505050505050505050505,
    0x0505050505050505051E050505050505050505050505050505051E1E06050606,
    0x06070707071E0606061E060606061E1E1E1E1E1E1E06061E0505051E1E051E1E,
    0x050506061E1E090909090909090909091E1E1E1E1E1E1E120B0B0B0B0B0B0B16,
    0x050607071205050505050505051E0505051E0505050505050505050505050505,
    0x0505050505050505051E050505050505050505051E05050505051E1E06050706,
    0x07070707071E0607071E070706061E1E1E1E1E1E1E07071E1E1E1E1E1E05051E,
    0x050506061E1E090909090909090909091E0505071E1E1E1E1E1E1E1E1E1E1E1E,
    0x060607070505050505050505051E0505051E0505050505050505050505050505,
    0x0505050505050505050505050505050505050505050505050505050606050707,
    0x07060606061E0707071E0707070605161E1E1E1E050505070B0B0B0B0B0B0B05,
    0x050506061E1E090909090909090909090B0B0B0B0B0B0B0B0B16050505050505,
    0x1E0607071E0505050505050505050505050505050505051E1E1E050505050505,
    0x0505050505050505050505050505050505051E0505050505050505051E051E1E,
    0x050505050505051E1E1E061E1E1E1E0707070606061E061E0707070707070707,
    0x1E1E1E1E1E1E090909090909090909091E1E0707121E1E1E1E1E1E1E1E1E1E1E,
    0x1E05050505050505050505050505050505050505050505050505050505050505,
    0x0505050505050505050505050505050505060505060606060606061E1E1E1E14,
    0x050505050505040606060606060606120909090909090909090912121E1E1E1E,
    0x1E1E1E1E1E1E1E1E1E1E1E1E1E1E1E1E1E1E1E1E1E1E1E1E1E1E1E1E1E1E1E1E,
    0x1E05051E051E05050505051E0505050505050505050505050505050505050505,
    0x050505051E051E05050505050505050505060505060606060606060606051E1E,
    0x05050505051E041E060606060606061E090909090909090909091E1E05050505,
    0x1E1E1E1E1E1E1E1E1E1E1E1E1E1E1E1E1E1E1E1E1E1E1E1E1E1E1E1E1E1E1E1E,
    0x0516161612121212121212121212121212121216121616160606161616161616,
    0x090909090909090909090B0B0B0B0B0B0B0B0B0B1606160616060E0F0E0F0707,
    0x05050505050505051E0505050505050505050505050505050505050505050505,
    0x050505050505050505050505051E1E1E1E060606060606060606060606060607,
    0x0606060606120606050505050506060606060606060606061E06060606060606,
    0x06060606060606060606060606060606060606060606060606060606061E1616,
    0x161616161616061616161616161E161612121212121616161612121E1E1E1E1E,
    0x1E1E1E1E1E1E1E1E1E1E1E1E1E1E1E1E1E1E1E1E1E1E1E1E1E1E1E1E1E1E1E1E,
    0x0505050505050505050505050505050505050505050505050505050505050505,
    0x0505050505050505050505070706060606070606060606060706060707060605,
    0x0909090909090909090912121212121205050505050507070606050505050606,
    0x0605070707050507070707070707050505060606060505050505050505050505,
    0x0505060707060607070707070706050709090909090909090909070707061616,
    0x0101010101010101010101010101010101010101010101010101010101010101,
    0x0101010101011E011E1E1E1E1E011E1E02020202020202020202020202020202,
    0x0202020202020202020202020202020202020202020202020202021204020202,
    0x0505050505050505050505050505050505050505050505050505050505050505,
    0x0505050505050505050505050505050505050505050505050505050505050505,
    0x0505050505050505050505050505050505050505050505050505050505050505,
    0x0505050505050505050505050505050505050505050505050505050505050505,
    0x0505050505050505050505050505050505050505050505050505050505050505,
    0x0505050505050505050505050505050505050505050505050505050505050505,
    0x0505050505050505050505050505050505050505050505050505050505050505,
    0x0505050505050505050505050505050505050505050505050505050505050505,
    0x0505050505050505050505050505050505050505050505050505050505050505,
    0x0505050505050505050505050505050505050505050505050505050505050505,
    0x0505050505050505051E050505051E1E050505050505051E051E050505051E1E,
    0x0505050505050505050505050505050505050505050505050505050505050505,
    0x0505050505050505051E050505051E1E05050505050505050505050505050505,
    0x05050505050505050505050505050505051E050505051E1E050505050505051E,
    0x051E050505051E1E0505050505050505050505050505051E0505050505050505,
    0x0505050505050505050505050505050505050505050505050505050505050505,
    0x05050505050505050505050505050505051E050505051E1E0505050505050505,
    0x0505050505050505050505050505050505050505050505050505050505050505,
    0x0505050505050505050505050505050505050505050505050505051E1E060606,
    0x1212121212121212120B0B0B0B0B0B0B0B0B0B0B0B0B0B0B0B0B0B0B0B1E1E1E,
    0x05050505050505050505050505050505161616161616161616161E1E1E1E1E1E,
    0x0101010101010101010101010101010101010101010101010101010101010101,
    0x0101010101010101010101010101010101010101010101010101010101010101,
    0x010101010101010101010101010101010101010101011E1E0202020202021E1E,
    0x0D05050505050505050505050505050505050505050505050505050505050505,
    0x0505050505050505050505050505050505050505050505050505050505050505,
    0x0505050505050505050505050505050505050505050505050505050505050505,
    0x0505050505050505050505050505050505050505050505050505050505050505,
    0x0505050505050505050505050505050505050505050505050505050505050505,
    0x0505050505050505050505050505050505050505050505050505050505050505,
    0x0505050505050505050505050505050505050505050505050505050505050505,
    0x0505050505050505050505050505050505050505050505050505050505050505,
    0x0505050505050505050505050505050505050505050505050505050505050505,
    0x0505050505050505050505050505050505050505050505050505050505050505,
    0x0505050505050505050505050505050505050505050505050505050505050505,
    0x0505050505050505050505050516120505050505050505050505050505050505,
    0x1705050505050505050505050505050505050505050505050505050E0F1E1E1E,
    0x0505050505050505050505050505050505050505050505050505050505050505,
    0x0505050505050505050505050505050505050505050505050505050505050505,
    0x05050505050505050505051212120A0A0A05050505050505051E1E1E1E1E1E1E,
    0x050505050505050505050505050505050505060606071E1E1E1E1E1E1E1E1E05,
    0x05050505050505050505050505050505050506060712121E1E1E1E1E1E1E1E1E,
    0x05050505050505050505050505050505050506061E1E1E1E1E1E1E1E1E1E1E1E,
    0x050505050505050505050505051E0505051E06061E1E1E1E1E1E1E1E1E1E1E1E,
    0x0505050505050505050505050505050505050505050505050505050505050505,
    0x0505050505050505050505050505050505050505060607060606060606060707,
    0x0707070707070607070606060606060606060606121212041212121405061E1E,
    0x090909090909090909091E1E1E1E1E1E0B0B0B0B0B0B0B0B0B0B1E1E1E1E1E1E,
    0x1212121212120D121212120606061B06090909090909090909091E1E1E1E1E1E,
    0x0505050505050505050505050505050505050505050505050505050505050505,
    0x0505050405050505050505050505050505050505050505050505050505050505,
    0x050505050505050505050505050505050505050505050505051E1E1E1E1E1E1E,
    0x0505050505060605050505050505050505050505050505050505050505050505,
    0x05050505050505050506051E1E1E1E1E05050505050505050505050505050505,
    0x0505050505050505050505050505050505050505050505050505050505050505,
    0x050505050505050505050505050505050505050505051E1E1E1E1E1E1E1E1E1E,
    0x050505050505050505050505050505050505050505050505050505050505051E,
    0x0606060707070706060707071E1E1E1E0707060707070707070606061E1E1E1E,
    0x161E1E1E12120909090909090909090905050505050505050505050505050505,
    0x05050505050505050505050505051E1E05050505051E1E1E1E1E1E1E1E1E1E1E,
    0x0505050505050505050505050505050505050505050505050505050505050505,
    0x0505050505050505050505051E1E1E1E05050505050505050505050505050505,
    0x050505050505050505051E1E1E1E1E1E090909090909090909090B1E1E1E1616,
    0x1616161616161616161616161616161616161616161616161616161616161616,
    0x050505050505050505050505050505050505050505050506060707061E1E1212,
    0x0505050505050505050505050505050505050505050505050505050505050505,
    0x050505050505050505050505050505050505050505070607060606060606061E,
    0x06070607070606060606060606070707070707060606060606060606061E1E06,
    0x090909090909090909091E1E1E1E1E1E090909090909090909091E1E1E1E1E1E,
    0x12121212121212041212121212121E1E06060606060606060606060606060806,
    0x0606060606060606060606060606061E1E1E1E1E1E1E1E1E1E1E1E1E1E1E1E1E,
    0x1E1E1E1E1E1E1E1E1E1E1E1E1E1E1E1E1E1E1E1E1E1E1E1E1E1E1E1E1E1E1E1E,
    0x0606060607050505050505050505050505050505050505050505050505050505,
    0x0505050505050505050505050505050505050505060706060606060706070707,
    0x070706070705050505050505051E1E1E09090909090909090909121212121212,
    0x121616161616161616161606060606060606060616161616161616161612121E,
    0x0606070505050505050505050505050505050505050505050505050505050505,
    0x0507060606060707060607060606050509090909090909090909050505050505,
    0x0505050505050505050505050505050505050505050505050505050505050505,
    0x05050505050506070606070707060706060607071E1E1E1E1E1E1E1E12121212,
    0x0505050505050505050505050505050505050505050505050505050505050505,
    0x0505050507070707070707070606060606060606070706061E1E1E1212121212,
    0x090909090909090909091E1E1E05050509090909090909090909050505050505,
    0x0505050505050505050505050505050505050505050505050404040404041212,
    0x0202020202020202021E1E1E1E1E1E1E01010101010101010101010101010101,
    0x0101010101010101010101010101010101010101010101010101011E1E010101,
    0x12121212121212121E1E1E1E1E1E1E1E06060612060606060606060606060606,
    0x0607060606060606060505050506050505050505060505070606051E1E1E1E1E,
    0x0202020202020202020202020202020202020202020202020202020202020202,
    0x0202020202020202020202020404040404040404040404040404040404040404,
    0x0404040404040404040404040404040404040404040404040404040404040404,
    0x0404040404040404040404020202020202020202020202020402020202020202,
    0x0202020202020202020202020202020202020202020202020202020404040404,
    0x0404040404040404040404040404040404040404040404040404040404040404,
    0x0606060606060606060606060606060606060606060606060606060606060606,
    0x0606060606060606060606060606060606060606060606060606060606060606,
    0x0102010201020102010201020102010201020102010201020102010201020102,
    0x0102010201020102010201020102010201020102010201020102010201020102,
    0x0102010201020102010201020102010201020102010201020102010201020102,
    0x0102010201020102010201020102010201020102010201020102010201020102,
    0x0102010201020102010201020102010201020102010202020202020202020102,
    0x0102010201020102010201020102010201020102010201020102010201020102,
    0x0102010201020102010201020102010201020102010201020102010201020102,
    0x0102010201020102010201020102010201020102010201020102010201020102,
    0x020202020202020201010101010101010202020202021E1E0101010101011E1E,
    0x0202020202020202010101010101010102020202020202020101010101010101,
    0x0202020202021E1E0101010101011E1E02020202020202021E011E011E011E01,
    0x0202020202020202010101010101010102020202020202020202020202021E1E,
    0x0202020202020202030303030303030302020202020202020303030303030303,
    0x0202020202020202030303030303030302020202021E02020101010103150215,
    0x15150202021E02020101010103151515020202021E1E0202010101011E151515,
    0x020202020202020201010101011515151E1E0202021E0202010101010315151E,
    0x17171717171717171717171B1B1B1B1B0D0D0D0D0D0D121210110E1010110E10,
    0x121212121212121218191B1B1B1B1B171212121212121212121011121212120C,
    0x0C121212130E0F121212121212121212121213120C1212121212121212121217,
    0x1B1B1B1B1B1E1B1B1B1B1B1B1B1B1B1B0B041E1E0B0B0B0B0B0B1313130E0F04,
    0x0B0B0B0B0B0B0B0B0B0B1313130E0F1E040404040404040404040404041E1E1E,
    0x1414141414141414141414141414141414141414141414141414141414141414,
    0x141E1E1E1E1E1E1E1E1E1E1E1E1E1E1E06060606060606060606060606080808,
    0x08060808080606060606060606060606061E1E1E1E1E1E1E1E1E1E1E1E1E1E1E,
    0x1616011616161601161602010101020201010102160116161301010101011616,
    0x1616161601160116011601010101160201010101020505050502161602020101,
    0x131313131301020202021613161602160B0B0B0B0B0B0B0B0B0B0B0B0B0B0B0B,
    0x0A0A0A0A0A0A0A0A0A0A0A0A0A0A0A0A0A0A0A0A0A0A0A0A0A0A0A0A0A0A0A0A,
    0x0A0A0A01020A0A0A0A0B16161E1E1E1E13131313131616161616131316161616,
    0x1316161316161316161616161616131616161616161616161616161616161616,
    0x1616161616161616161616161616131316161316131616161616161616161616,
    0x1616161616161616161616161616161616161616131313131313131313131313,
    0x1313131313131313131313131313131313131313131313131313131313131313,
    0x1313131313131313131313131313131313131313131313131313131313131313,
    0x1313131313131313131313131313131313131313131313131313131313131313,
    0x1313131313131313131313131313131313131313131313131313131313131313,
    0x1313131313131313131313131313131313131313131313131313131313131313,
    0x1313131313131313131313131313131313131313131313131313131313131313,
    0x1313131313131313131313131313131313131313131313131313131313131313,
    0x1313131313131313131313131313131313131313131313131313131313131313,
    0x16161616161616160E0F0E0F1616161616161616161616161616161616161616,
    0x1313161616161616160E0F161616161616161616161616161616161616161616,
    0x1616161616161616161616161616161616161616161616161616161616161616,
    0x1616161616161616161616161616161616161616161616161616161613161616,
    0x1616161616161616161616161616161616161616161616161616161313131313,
    0x1313131313131313131313131313131313131313161616161616161616161616,
    0x1616161616161616161616161616161616161616161616161616161613131313,
    0x1313161616161616161616161616161616161616161616161616161616161616,
    0x1616161616161616161616161616161616161616161616161616161616161616,
    0x161616161616161E1E1E1E1E1E1E1E1E1E1E1E1E1E1E1E1E1E1E1E1E1E1E1E1E,
    0x16161616161616161616161E1E1E1E1E1E1E1E1E1E1E1E1E1E1E1E1E1E1E1E1E,
    0x0B0B0B0B0B0B0B0B0B0B0B0B0B0B0B0B0B0B0B0B0B0B0B0B0B0B0B0B0B0B0B0B,
    0x0B0B0B0B0B0B0B0B0B0B0B0B0B0B0B0B0B0B0B0B0B0B0B0B0B0B0B0B16161616,
    0x1616161616161616161616161616161616161616161616161616161616161616,
    0x1616161616161616161616161616161616161616161616161616161616161616,
    0x161616161616161616160B0B0B0B0B0B0B0B0B0B0B0B0B0B0B0B0B0B0B0B0B0B,
    0x1616161616161616161616161616161616161616161616161616161616161616,
    0x1616161616161616161616161616161616161616161616161616161616161616,
    0x1616161616161616161616161616161616161616161616161616161616161616,
    0x1616161616161616161616161616161616161616161616161616161616161616,
    0x1616161616161616161616161616161616161616161616161616161616161616,
    0x1616161616161616161616161616161616161616161616131616161616161616,
    0x1613161616161616161616161616161616161616161616161616161616161616,
    0x1616161616161616161616161616161616161616161616161313131313131313,
    0x1616161616161616161616161616161616161616161616161616161616161616,
    0x1616161616161616161616161616161616161616161616161616161616161616,
    0x1616161616161616161616161616161616161616161616161616161616161616,
    0x1616161616161616161616161616161316161616161616161616161616161616,
    0x1616161616161616161616161616161616161616161616161616161616161616,
    0x1616161616161616161616161616161616161616161616161616161616161616,
    0x1616161616161616161616161616161616161616161616161616161616161616,
    0x1616161616161616161616161616161616161616161616161616161616161616,
    0x1616161616161616161616161616161616161616161616161616161616161616,
    0x1616161616161616161616161616161616161616161616161616161616161616,
    0x1616161616161616161616161616161616161616161616161616161616161616,
    0x16161616161616160E0F0E0F0E0F0E0F0E0F0E0F0E0F0B0B0B0B0B0B0B0B0B0B,
    0x0B0B0B0B0B0B0B0B0B0B0B0B0B0B0B0B0B0B0B0B161616161616161616161616,
    0x1616161616161616161616161616161616161616161616161616161616161616,
    0x13131313130E0F13131313131313131313131313131313131313131313131313,
    0x1313131313130E0F0E0F0E0F0E0F0E0F13131313131313131313131313131313,
    0x1616161616161616161616161616161616161616161616161616161616161616,
    0x1616161616161616161616161616161616161616161616161616161616161616,
    0x1616161616161616161616161616161616161616161616161616161616161616,
    0x1616161616161616161616161616161616161616161616161616161616161616,
    0x1616161616161616161616161616161616161616161616161616161616161616,
    0x1616161616161616161616161616161616161616161616161616161616161616,
    0x1616161616161616161616161616161616161616161616161616161616161616,
    0x1616161616161616161616161616161616161616161616161616161616161616,
    0x1313131313131313131313131313131313131313131313131313131313131313,
    0x1313131313131313131313131313131313131313131313131313131313131313,
    0x1313131313131313131313131313131313131313131313131313131313131313,
    0x1313131313131313131313131313131313131313131313131313131313131313,
    0x1313130E0F0E0F0E0F0E0F0E0F0E0F0E0F0E0F0E0F0E0F0E0F13131313131313,
    0x1313131313131313131313131313131313131313131313131313131313131313,
    0x1313131313131313131313131313131313131313131313130E0F0E0F13131313,
    0x131313131313131313131313131313131313131313131313131313130E0F1313,
    0x1616161616161616161616161616161616161616161616161616161616161616,
    0x1616161616161616161616161616161613131313131313131313131313131313,
    0x1313131313161613131313131316161616161616161616161616161616161616,
    0x16161616161616161616161616161616161616161E1E16161616161616161616,
    0x161616161616161616161616161616161616161616161E161616161616161616,
    0x1616161616161616161616161616161616161616161616161616161616161616,
    0x1616161616161616161616161616161616161616161616161616161616161616,
    0x1616161616161616161616161616161616161616161616161616161616161616,
    0x0101010101010101010101010101010101010101010101010101010101010101,
    0x0101010101010101010101010101010102020202020202020202020202020202,
    0x0202020202020202020202020202020202020202020202020202020202020202,
    0x0102010101020201020102010201010101020102020102020202020204040101,
    0x0102010201020102010201020102010201020102010201020102010201020102,
    0x0102010201020102010201020102010201020102010201020102010201020102,
    0x0102010201020102010201020102010201020102010201020102010201020102,
    0x01020102021616161616160102010206060601021E1E1E1E1E121212120B1212,
    0x0202020202020202020202020202020202020202020202020202020202020202,
    0x0202020202021E021E1E1E1E1E021E1E05050505050505050505050505050505,
    0x0505050505050505050505050505050505050505050505050505050505050505,
    0x05050505050505051E1E1E1E1E1E1E04121E1E1E1E1E1E1E1E1E1E1E1E1E1E06,
    0x05050505050505050505050505050505050505050505051E1E1E1E1E1E1E1E1E,
    0x050505050505051E050505050505051E050505050505051E050505050505051E,
    0x050505050505051E050505050505051E050505050505051E050505050505051E,
    0x0606060606060606060606060606060606060606060606060606060606060606,
    0x12121011101112121210111210111212121212121212120D12120D1210111212,
    0x10110E0F0E0F0E0F0E0F121212121204121212121212121212120D0D12121212,
    0x0D120E1212121212121212121212121216161212120E0F0E0F0E0F0E0F0D1E1E,
    0x1E1E1E1E1E1E1E1E1E1E1E1E1E1E1E1E1E1E1E1E1E1E1E1E1E1E1E1E1E1E1E1E,
    0x16161616161616161616161616161616161616161616161616161E1616161616,
    0x1616161616161616161616161616161616161616161616161616161616161616,
    0x1616161616161616161616161616161616161616161616161616161616161616,
    0x16161616161616161616161616161616161616161E1E1E1E1E1E1E1E1E1E1E1E,
    0x1616161616161616161616161616161616161616161616161616161616161616,
    0x1616161616161616161616161616161616161616161616161616161616161616,
    0x1616161616161616161616161616161616161616161616161616161616161616,
    0x1616161616161616161616161616161616161616161616161616161616161616,
    0x1616161616161616161616161616161616161616161616161616161616161616,
    0x1616161616161616161616161616161616161616161616161616161616161616,
    0x161616161616161616161616161616161616161616161E1E1E1E1E1E1E1E1E1E,
    0x1E1E1E1E1E1E1E1E1E1E1E1E1E1E1E1E16161616161616161616161616161616,
    0x171212121604050A0E0F0E0F0E0F0E0F0E0F16160E0F0E0F0E0F0E0F0D0E0F0F,
    0x160A0A0A0A0A0A0A0A0A0606060607070D040404040416160A0A0A0405121616,
    0x1E05050505050505050505050505050505050505050505050505050505050505,
    0x0505050505050505050505050505050505050505050505050505050505050505,
    0x05050505050505050505050505050505050505050505051E1E06061515040405,
    0x0D05050505050505050505050505050505050505050505050505050505050505,
    0x0505050505050505050505050505050505050505050505050505050505050505,
    0x0505050505050505050505050505050505050505050505050505051204040405,
    0x1E1E1E1E1E050505050505050505050505050505050505050505050505050505,
    0x050505050505050505050505050505051E050505050505050505050505050505,
    0x0505050505050505050505050505050505050505050505050505050505050505,
    0x0505050505050505050505050505050505050505050505050505050505050505,
    0x0505050505050505050505050505051E16160B0B0B0B16161616161616161616,
    0x0505050505050505050505050505050505050505050505050505050505050505,
    0x1616161616161616161616161616161616161616161616161616161616161616,
    0x161616161E1E1E1E1E1E1E1E1E1E1E1605050505050505050505050505050505,
    0x161616161616161616161616161616161616161616161616161616161616161E,
    0x0B0B0B0B0B0B0B0B0B0B16161616161616161616161616161616161616161616,
    0x16161616161616160B0B0B0B0B0B0B0B160B0B0B0B0B0B0B0B0B0B0B0B0B0B0B,
    0x1616161616161616161616161616161616161616161616161616161616161616,
    0x0B0B0B0B0B0B0B0B0B0B16161616161616161616161616161616161616161616,
    0x16161616161616161616161616161616160B0B0B0B0B0B0B0B0B0B0B0B0B0B0B,
    0x1616161616161616161616161616161616161616161616161616161616161616,
    0x1616161616161616161616161616161616161616161616161616161616161616,
    0x0505050505050505050505050505050505050505050505050505050505050505,
    0x0505050505050505050505050505050505050505050505050505050505050505,
    0x0505050505050505050505050505050505050505050505050505050505050505,
    0x0505050505050505050505050505050505050505050505050505050505050505,
    0x0505050505050505050505050505050505050505050505050505050505050505,
    0x0505050505050505050505050505050505050505050505050505050505050505,
    0x1616161616161616161616161616161616161616161616161616161616161616,
    0x1616161616161616161616161616161616161616161616161616161616161616,
    0x0505050505050505050505050505050505050505050405050505050505050505,
    0x0505050505050505050505050505050505050505050505050505050505050505,
    0x0505050505050505050505050505050505050505050505050505050505050505,
    0x0505050505050505050505050505050505050505050505050505050505050505,
    0x0505050505050505050505050505050505050505050505050505050505050505,
    0x0505050505050505050505050505050505050505050505050505050505050505,
    0x0505050505050505050505050505050505050505050505050505050505050505,
    0x0505050505050505050505050505050505050505050505050505050505050505,
    0x0505050505050505050505050505050505050505050505050505050505050505,
    0x0505050505050505050505050505050505050505050505050505050505050505,
    0x0505050505050505050505050505050505050505050505050505050505050505,
    0x0505050505050505050505050505050505050505050505050505050505050505,
    0x050505050505050505050505051E1E1E16161616161616161616161616161616,
    0x1616161616161616161616161616161616161616161616161616161616161616,
    0x161616161616161E1E1E1E1E1E1E1E1E05050505050505050505050505050505,
    0x0505050505050505050505050505050505050505050505050404040404041212,
    0x0505050505050505050505050412121205050505050505050505050505050505,
    0x0909090909090909090905051E1E1E1E1E1E1E1E1E1E1E1E1E1E1E1E1E1E1E1E,
    0x0102010201020102010201020102010201020102010201020102010201020102,
    0x0102010201020102010201020102050608080812060606060606060606061204,
    0x0102010201020102010201020102010201020102010201020102010204040606,
    0x0505050505050505050505050505050505050505050505050505050505050505,
    0x0505050505050505050505050505050505050505050505050505050505050505,
    0x0505050505050A0A0A0A0A0A0A0A0A0A06061212121212121E1E1E1E1E1E1E1E,
    0x1515151515151515151515151515151515151515151515040404040404040404,
    0x1515010201020102010201020102010202020102010201020102010201020102,
    0x0102010201020102010201020102010201020102010201020102010201020102,
    0x0102010201020102010201020102010204020202020202020201020102010102,
    0x0102010201020102041515010201020501020102020201020102010201020102,
    0x0102010201020102010201010101010201010101010201020102010201020102,
    0x01020102010101010201021E1E1E1E1E01021E021E02010201021E1E1E1E1E1E,
    0x1E1E1E1E1E1E1E1E1E1E1E1E1E1E1E1E1E1E0404040102050404020505050505,
    0x0505060505050605050505060505050505050505050505050505050505050505,
    0x050505070706060716161616061E1E1E0B0B0B0B0B0B161614161E1E1E1E1E1E,
    0x0505050505050505050505050505050505050505050505050505050505050505,
    0x0505050505050505050505050505050505050505121212121E1E1E1E1E1E1E1E,
    0x0707050505050505050505050505050505050505050505050505050505050505,
    0x0505050505050505050505050505050505050505070707070707070707070707,
    0x0707070706061E1E1E1E1E1E1E1E1212090909090909090909091E1E1E1E1E1E,
    0x0606060606060606060606060606060606060505050505051212120512050506,
    0x0909090909090909090905050505050505050505050505050505050505050505,
    0x0505050505050606060606060606121205050505050505050505050505050505,
    0x05050505050505060606060606060606060607071E1E1E1E1E1E1E1E1E1E1E12,
    0x05050505050505050505050505050505050505050505050505050505051E1E1E,
    0x0606060705050505050505050505050505050505050505050505050505050505,
    0x0505050505050505050505050505050505050506070706060606070706060707,
    0x07121212121212121212121212121E04090909090909090909091E1E1E1E1212,
    0x050505050506040505050505050505050909090909090909090905050505051E,
    0x0505050505050505050505050505050505050505050505050505050505050505,
    0x05050505050505050506060606060607070606070706061E1E1E1E1E1E1E1E1E,
    0x05050506050505050505050506071E1E090909090909090909091E1E12121212,
    0x0505050505050505050505050505050504050505050505161616050706070505,
    0x0505050505050505050505050505050505050505050505050505050505050505,
    0x0505050505050505050505050505050506050606060505060605050505050606,
    0x0506051E1E1E1E1E1E1E1E1E1E1E1E1E1E1E1E1E1E1E1E1E1E1E1E0505041212,
    0x05050505050505050505050706060707121205040407061E1E1E1E1E1E1E1E1E,
    0x1E0505050505051E1E0505050505051E1E0505050505051E1E1E1E1E1E1E1E1E,
    0x050505050505051E050505050505051E02020202020202020202020202020202,
    0x0202020202020202020202020202020202020202020202020202021504040404,
    0x0202020202020202020415151E1E1E1E02020202020202020202020202020202,
    0x0202020202020202020202020202020202020202020202020202020202020202,
    0x0202020202020202020202020202020202020202020202020202020202020202,
    0x0505050505050505050505050505050505050505050505050505050505050505,
    0x05050507070607070607071207061E1E090909090909090909091E1E1E1E1E1E,
    0x0505050505050505050505050505050505050505050505050505050505050505,
    0x0505050505050505050505050505050505050505050505050505050505050505,
    0x0505050505050505050505050505050505050505050505050505050505050505,
    0x0505050505050505050505050505050505050505050505050505050505050505,
    0x0505050505050505050505050505050505050505050505050505050505050505,
    0x050505051E1E1E1E1E1E1E1E1E1E1E1E05050505050505050505050505050505,
    0x050505050505051E1E1E1E050505050505050505050505050505050505050505,
    0x050505050505050505050505050505050505050505050505050505051E1E1E1E,
    0x1C1C1C1C1C1C1C1C1C1C1C1C1C1C1C1C1C1C1C1C1C1C1C1C1C1C1C1C1C1C1C1C,
    0x1C1C1C1C1C1C1C1C1C1C1C1C1C1C1C1C1C1C1C1C1C1C1C1C1C1C1C1C1C1C1C1C,
    0x1C1C1C1C1C1C1C1C1C1C1C1C1C1C1C1C1C1C1C1C1C1C1C1C1C1C1C1C1C1C1C1C,
    0x1C1C1C1C1C1C1C1C1C1C1C1C1C1C1C1C1C1C1C1C1C1C1C1C1C1C1C1C1C1C1C1C,
    0x1C1C1C1C1C1C1C1C1C1C1C1C1C1C1C1C1C1C1C1C1C1C1C1C1C1C1C1C1C1C1C1C,
    0x1C1C1C1C1C1C1C1C1C1C1C1C1C1C1C1C1C1C1C1C1C1C1C1C1C1C1C1C1C1C1C1C,
    0x1C1C1C1C1C1C1C1C1C1C1C1C1C1C1C1C1C1C1C1C1C1C1C1C1C1C1C1C1C1C1C1C,
    0x1C1C1C1C1C1C1C1C1C1C1C1C1C1C1C1C1C1C1C1C1C1C1C1C1C1C1C1C1C1C1C1C,
    0x1D1D1D1D1D1D1D1D1D1D1D1D1D1D1D1D1D1D1D1D1D1D1D1D1D1D1D1D1D1D1D1D,
    0x1D1D1D1D1D1D1D1D1D1D1D1D1D1D1D1D1D1D1D1D1D1D1D1D1D1D1D1D1D1D1D1D,
    0x1D1D1D1D1D1D1D1D1D1D1D1D1D1D1D1D1D1D1D1D1D1D1D1D1D1D1D1D1D1D1D1D,
    0x1D1D1D1D1D1D1D1D1D1D1D1D1D1D1D1D1D1D1D1D1D1D1D1D1D1D1D1D1D1D1D1D,
    0x1D1D1D1D1D1D1D1D1D1D1D1D1D1D1D1D1D1D1D1D1D1D1D1D1D1D1D1D1D1D1D1D,
    0x1D1D1D1D1D1D1D1D1D1D1D1D1D1D1D1D1D1D1D1D1D1D1D1D1D1D1D1D1D1D1D1D,
    0x1D1D1D1D1D1D1D1D1D1D1D1D1D1D1D1D1D1D1D1D1D1D1D1D1D1D1D1D1D1D1D1D,
    0x1D1D1D1D1D1D1D1D1D1D1D1D1D1D1D1D1D1D1D1D1D1D1D1D1D1D1D1D1D1D1D1D,
    0x0505050505050505050505050505050505050505050505050505050505050505,
    0x0505050505050505050505050505050505050505050505050505050505050505,
    0x0505050505050505050505050505050505050505050505050505050505050505,
    0x05050505050505050505050505051E1E05050505050505050505050505050505,
    0x0505050505050505050505050505050505050505050505050505050505050505,
    0x0505050505050505050505050505050505050505050505050505050505050505,
    0x05050505050505050505050505050505050505050505050505051E1E1E1E1E1E,
    0x1E1E1E1E1E1E1E1E1E1E1E1E1E1E1E1E1E1E1E1E1E1E1E1E1E1E1E1E1E1E1E1E,
    0x020202020202021E1E1E1E1E1E1E1E1E1E1E1E02020202021E1E1E1E1E050605,
    0x05050505050505050513050505050505050505050505051E05050505051E051E,
    0x05051E05051E0505050505050505050505050505050505050505050505050505,
    0x0505050505050505050505050505050505050505050505050505050505050505,
    0x0505050505050505050505050505050505050505050505050505050505050505,
    0x0505050505050505050505050505050505051515151515151515151515151515,
    0x1515151E1E1E1E1E1E1E1E1E1E1E1E1E1E1E1E05050505050505050505050505,
    0x0505050505050505050505050505050505050505050505050505050505050505,
    0x0505050505050505050505050505050505050505050505050505050505050505,
    0x0505050505050505050505050505050505050505050505050505050505050F0E,
    0x1616161616161616161616161616161605050505050505050505050505050505,
    0x0505050505050505050505050505050505050505050505050505050505050505,
    0x050505050505050505050505050505051E1E0505050505050505050505050505,
    0x0505050505050505050505050505050505050505050505050505050505050505,
    0x05050505050505051E1E1E1E1E1E1E161E1E1E1E1E1E1E1E1E1E1E1E1E1E1E1E,
    0x1E1E1E1E1E1E1E1E1E1E1E1E1E1E1E1E05050505050505050505050514161616,
    0x06060606060606060606060606060606121212121212120E0F121E1E1E1E1E1E,
    0x06060606060606060606060606060606120D0D0C0C0E0F0E0F0E0F0E0F0E0F0E,
    0x0F0E0F0E0F12120E0F121212120C0C0C1212121E121212120D0E0F0E0F0E0F12,
    0x1212130D1313131E121412121E1E1E1E05050505051E05050505050505050505,
    0x0505050505050505050505050505050505050505050505050505050505050505,
    0x0505050505050505050505050505050505050505050505050505050505050505,
    0x0505050505050505050505050505050505050505050505050505050505050505,
    0x05050505050505050505050505050505050505050505050505050505051E1E1B,
    0x1E121212141212120E0F1213120D121209090909090909090909121213131312,
    0x1201010101010101010101010101010101010101010101010101010E120F150C,
    0x1502020202020202020202020202020202020202020202020202020E130F130E,
    0x0F120E0F12120505050505050505050504050505050505050505050505050505,
    0x0505050505050505050505050505050505050505050505050505050505050404,
    0x050505050505050505050505050505050505050505050505050505050505051E,
    0x1E1E0505050505051E1E0505050505051E1E0505050505051E1E0505051E1E1E,
    0x141413151614141E161313131316161E1E1E1E1E1E1E1E1E1E1B1B1B16161E1E,
    0x0505050505050505050505051E05050505050505050505050505050505050505,
    0x050505050505051E050505050505050505050505050505050505051E05051E05,
    0x05050505050505050505050505051E1E05050505050505050505050505051E1E,
    0x1E1E1E1E1E1E1E1E1E1E1E1E1E1E1E1E1E1E1E1E1E1E1E1E1E1E1E1E1E1E1E1E,
    0x0505050505050505050505050505050505050505050505050505050505050505,
    0x0505050505050505050505050505050505050505050505050505050505050505,
    0x0505050505050505050505050505050505050505050505050505050505050505,
    0x0505050505050505050505050505050505050505050505050505051E1E1E1E1E,
    0x1212121E1E1E1E0B0B0B0B0B0B0B0B0B0B0B0B0B0B0B0B0B0B0B0B0B0B0B0B0B,
    0x0B0B0B0B0B0B0B0B0B0B0B0B0B0B0B0B0B0B0B0B1E1E1E161616161616161616,
    0x0A0A0A0A0A0A0A0A0A0A0A0A0A0A0A0A0A0A0A0A0A0A0A0A0A0A0A0A0A0A0A0A,
    0x0A0A0A0A0A0A0A0A0A0A0A0A0A0A0A0A0A0A0A0A0A0B0B0B0B16161616161616,
    0x161616161616161616160B0B1616161E161616161616161616161616161E1E1E,
    0x161E1E1E1E1E1E1E1E1E1E1E1E1E1E1E1E1E1E1E1E1E1E1E1E1E1E1E1E1E1E1E,
    0x1E1E1E1E1E1E1E1E1E1E1E1E1E1E1E1E16161616161616161616161616161616,
    0x1616161616161616161616161616161616161616161616161616161616061E1E,
    0x1E1E1E1E1E1E1E1E1E1E1E1E1E1E1E1E1E1E1E1E1E1E1E1E1E1E1E1E1E1E1E1E,
    0x1E1E1E1E1E1E1E1E1E1E1E1E1E1E1E1E1E1E1E1E1E1E1E1E1E1E1E1E1E1E1E1E,
    0x1E1E1E1E1E1E1E1E1E1E1E1E1E1E1E1E1E1E1E1E1E1E1E1E1E1E1E1E1E1E1E1E,
    0x1E1E1E1E1E1E1E1E1E1E1E1E1E1E1E1E1E1E1E1E1E1E1E1E1E1E1E1E1E1E1E1E,
    0x05050505050505050505050505050505050505050505050505050505051E1E1E,
    0x0505050505050505050505050505050505050505050505050505050505050505,
    0x05050505050505050505050505050505051E1E1E1E1E1E1E1E1E1E1E1E1E1E1E,
    0x060B0B0B0B0B0B0B0B0B0B0B0B0B0B0B0B0B0B0B0B0B0B0B0B0B0B0B1E1E1E1E,
    0x0505050505050505050505050505050505050505050505050505050505050505,
    0x0B0B0B0B1E1E1E1E1E1E1E1E1E05050505050505050505050505050505050505,
    0x050A05050505050505050A1E1E1E1E1E05050505050505050505050505050505,
    0x0505050505050505050505050505050505050505050506060606061E1E1E1E1E,
    0x0505050505050505050505050505050505050505050505050505050505051E12,
    0x0505050505050505050505050505050505050505050505050505050505050505,
    0x050505051E1E1E1E0505050505050505120A0A0A0A0A1E1E1E1E1E1E1E1E1E1E,
    0x1E1E1E1E1E1E1E1E1E1E1E1E1E1E1E1E1E1E1E1E1E1E1E1E1E1E1E1E1E1E1E1E,
    0x0101010101010101010101010101010101010101010101010101010101010101,
    0x0101010101010101020202020202020202020202020202020202020202020202,
    0x0202020202020202020202020202020205050505050505050505050505050505,
    0x0505050505050505050505050505050505050505050505050505050505050505,
    0x0505050505050505050505050505050505050505050505050505050505051E1E,
    0x090909090909090909091E1E1E1E1E1E01010101010101010101010101010101,
    0x01010101010101010101010101010101010101011E1E1E1E0202020202020202,
    0x020202020202020202020202020202020202020202020202020202021E1E1E1E,
    0x0505050505050505050505050505050505050505050505050505050505050505,
    0x05050505050505051E1E1E1E1E1E1E1E05050505050505050505050505050505,
    0x0505050505050505050505050505050505050505050505050505050505050505,
    0x050505051E1E1E1E1E1E1E1E1E1E1E1201010101010101010101011E01010101,
    0x01010101010101010101011E010101010101011E01011E020202020202020202,
    0x02021E0202020202020202020202020202021E020202020202021E02021E1E1E,
    0x1E1E1E1E1E1E1E1E1E1E1E1E1E1E1E1E1E1E1E1E1E1E1E1E1E1E1E1E1E1E1E1E,
    0x1E1E1E1E1E1E1E1E1E1E1E1E1E1E1E1E1E1E1E1E1E1E1E1E1E1E1E1E1E1E1E1E,
    0x0505050505050505050505050505050505050505050505050505050505050505,
    0x05050505050505050505050505050505050505050505051E1E1E1E1E1E1E1E1E,
    0x050505050505050505050505050505050505050505051E1E1E1E1E1E1E1E1E1E,
    0x05050505050505051E1E1E1E1E1E1E1E1E1E1E1E1E1E1E1E1E1E1E1E1E1E1E1E,
    0x0404040404041E04040404040404040404040404040404040404040404040404,
    0x04040404040404040404040404040404041E0404040404040404041E1E1E1E1E,
    0x1E1E1E1E1E1E1E1E1E1E1E1E1E1E1E1E1E1E1E1E1E1E1E1E1E1E1E1E1E1E1E1E,
    0x1E1E1E1E1E1E1E1E1E1E1E1E1E1E1E1E1E1E1E1E1E1E1E1E1E1E1E1E1E1E1E1E,
    0x0505050505051E1E051E05050505050505050505050505050505050505050505,
    0x050505050505050505050505050505050505050505051E05051E1E1E051E1E05,
    0x050505050505050505050505050505050505050505051E120B0B0B0B0B0B0B0B,
    0x050505050505050505050505050505050505050505050516160B0B0B0B0B0B0B,
    0x050505050505050505050505050505050505050505050505050505050505051E,
    0x1E1E1E1E1E1E1E0B0B0B0B0B0B0B0B0B1E1E1E1E1E1E1E1E1E1E1E1E1E1E1E1E,
    0x1E1E1E1E1E1E1E1E1E1E1E1E1E1E1E1E1E1E1E1E1E1E1E1E1E1E1E1E1E1E1E1E,
    0x050505050505050505050505050505050505051E05051E1E1E1E1E0B0B0B0B0B,
    0x050505050505050505050505050505050505050505050B0B0B0B0B0B1E1E1E12,
    0x05050505050505050505050505050505050505050505050505051E1E1E1E1E12,
    0x1E1E1E1E1E1E1E1E1E1E1E1E1E1E1E1E1E1E1E1E1E1E1E1E1E1E1E1E1E1E1E1E,
    0x1E1E1E1E1E1E1E1E1E1E1E1E1E1E1E1E1E1E1E1E1E1E1E1E1E1E1E1E1E1E1E1E,
    0x0505050505050505050505050505050505050505050505050505050505050505,
    0x0505050505050505050505050505050505050505050505051E1E1E1E0B0B0505,
    0x0B0B0B0B0B0B0B0B0B0B0B0B0B0B0B0B1E1E0B0B0B0B0B0B0B0B0B0B0B0B0B0B,
    0x0B0B0B0B0B0B0B0B0B0B0B0B0B0B0B0B0B0B0B0B0B0B0B0B0B0B0B0B0B0B0B0B,
    0x050606061E06061E1E1E1E1E06060606050505051E0505051E05050505050505,
    0x050505050505050505050505050505050505050505051E1E0606061E1E1E1E06,
    0x0B0B0B0B0B0B0B0B0B1E1E1E1E1E1E1E1212121212121212121E1E1E1E1E1E1E,
    0x05050505050505050505050505050505050505050505050505050505050B0B12,
    0x05050505050505050505050505050505050505050505050505050505050B0B0B,
    0x1E1E1E1E1E1E1E1E1E1E1E1E1E1E1E1E1E1E1E1E1E1E1E1E1E1E1E1E1E1E1E1E,
    0x0505050505050505160505050505050505050505050505050505050505050505,
    0x050505050506061E1E1E1E0B0B0B0B0B121212121212121E1E1E1E1E1E1E1E1E,
    0x0505050505050505050505050505050505050505050505050505050505050505,
    0x050505050505050505050505050505050505050505051E1E1E12121212121212,
    0x050505050505050505050505050505050505050505051E1E0B0B0B0B0B0B0B0B,
    0x050505050505050505050505050505050505051E1E1E1E1E0B0B0B0B0B0B0B0B,
    0x0505050505050505050505050505050505051E1E1E1E1E1E1E121212121E1E1E,
    0x1E1E1E1E1E1E1E1E1E0B0B0B0B0B0B0B1E1E1E1E1E1E1E1E1E1E1E1E1E1E1E1E,
    0x1E1E1E1E1E1E1E1E1E1E1E1E1E1E1E1E1E1E1E1E1E1E1E1E1E1E1E1E1E1E1E1E,
    0x1E1E1E1E1E1E1E1E1E1E1E1E1E1E1E1E1E1E1E1E1E1E1E1E1E1E1E1E1E1E1E1E,
    0x0505050505050505050505050505050505050505050505050505050505050505,
    0x0505050505050505050505050505050505050505050505050505050505050505,
    0x0505050505050505051E1E1E1E1E1E1E1E1E1E1E1E1E1E1E1E1E1E1E1E1E1E1E,
    0x1E1E1E1E1E1E1E1E1E1E1E1E1E1E1E1E1E1E1E1E1E1E1E1E1E1E1E1E1E1E1E1E,
    0x0101010101010101010101010101010101010101010101010101010101010101,
    0x010101010101010101010101010101010101011E1E1E1E1E1E1E1E1E1E1E1E1E,
    0x0202020202020202020202020202020202020202020202020202020202020202,
    0x020202020202020202020202020202020202021E1E1E1E1E1E1E0B0B0B0B0B0B,
    0x0505050505050505050505050505050505050505050505050505050505050505,
    0x05050505060606061E1E1E1E1E1E1E1E090909090909090909091E1E1E1E1E1E,
    0x1E1E1E1E1E1E1E1E1E1E1E1E1E1E1E1E1E1E1E1E1E1E1E1E1E1E1E1E1E1E1E1E,
    0x1E1E1E1E1E1E1E1E1E1E1E1E1E1E1E1E1E1E1E1E1E1E1E1E1E1E1E1E1E1E1E1E,
    0x1E1E1E1E1E1E1E1E1E1E1E1E1E1E1E1E1E1E1E1E1E1E1E1E1E1E1E1E1E1E1E1E,
    0x1E1E1E1E1E1E1E1E1E1E1E1E1E1E1E1E1E1E1E1E1E1E1E1E1E1E1E1E1E1E1E1E,
    0x1E1E1E1E1E1E1E1E1E1E1E1E1E1E1E1E1E1E1E1E1E1E1E1E1E1E1E1E1E1E1E1E,
    0x1E1E1E1E1E1E1E1E1E1E1E1E1E1E1E1E1E1E1E1E1E1E1E1E1E1E1E1E1E1E1E1E,
    0x1E1E1E1E1E1E1E1E1E1E1E1E1E1E1E1E1E1E1E1E1E1E1E1E1E1E1E1E1E1E1E1E,
    0x1E1E1E1E1E1E1E1E1E1E1E1E1E1E1E1E1E1E1E1E1E1E1E1E1E1E1E1E1E1E1E1E,
    0x1E1E1E1E1E1E1E1E1E1E1E1E1E1E1E1E1E1E1E1E1E1E1E1E1E1E1E1E1E1E1E1E,
    0x0B0B0B0B0B0B0B0B0B0B0B0B0B0B0B0B0B0B0B0B0B0B0B0B0B0B0B0B0B0B0B1E,
    0x0505050505050505050505050505050505050505050505050505050505050505,
    0x050505050505050505051E06060D1E1E05051E1E1E1E1E1E1E1E1E1E1E1E1E1E,
    0x1E1E1E1E1E1E1E1E1E1E1E1E1E1E1E1E1E1E1E1E1E1E1E1E1E1E1E1E1E1E1E1E,
    0x1E1E1E1E1E1E1E1E1E1E1E1E1E1E1E1E1E1E1E1E1E1E1E1E1E1E1E1E1E060606,
    0x05050505050505050505050505050505050505050505050505050505050B0B0B,
    0x0B0B0B0B0B0B0B051E1E1E1E1E1E1E1E05050505050505050505050505050505,
    0x05050505050506060606060606060606060B0B0B0B12121212121E1E1E1E1E1E,
    0x1E1E1E1E1E1E1E1E1E1E1E1E1E1E1E1E05050505050505050505050505050505,
    0x050506060606121212121E1E1E1E1E1E1E1E1E1E1E1E1E1E1E1E1E1E1E1E1E1E,
    0x1E1E1E1E1E1E1E1E1E1E1E1E1E1E1E1E05050505050505050505050505050505,
    0x05050505050B0B0B0B0B0B0B1E1E1E1E1E1E1E1E1E1E1E1E1E1E1E1E1E1E1E1E,
    0x05050505050505050505050505050505050505050505051E1E1E1E1E1E1E1E1E,
    0x0706070505050505050505050505050505050505050505050505050505050505,
    0x0505050505050505050505050505050505050505050505050606060606060606,
    0x06060606060606121212121212121E1E1E1E0B0B0B0B0B0B0B0B0B0B0B0B0B0B,
    0x0B0B0B0B0B0B090909090909090909090605050606051E1E1E1E1E1E1E1E1E06,
    0x0606070505050505050505050505050505050505050505050505050505050505,
    0x05050505050505050505050505050505070707060606060707060612121B1212,
    0x1212061E1E1E1E1E1E1E1E1E1E1B1E1E05050505050505050505050505050505,
    0x0505050505050505051E1E1E1E1E1E1E090909090909090909091E1E1E1E1E1E,
    0x0606060505050505050505050505050505050505050505050505050505050505,
    0x0505050505050506060606060706060606060606061E09090909090909090909,
    0x12121212050707051E1E1E1E1E1E1E1E05050505050505050505050505050505,
    0x05050505050505050505050505050505050505061212051E1E1E1E1E1E1E1E1E,
    0x0606070505050505050505050505050505050505050505050505050505050505,
    0x0505050505050505050505050505050505050507070706060606060606060607,
    0x0705050505121212120606060612070609090909090909090909051205121212,
    0x1E0B0B0B0B0B0B0B0B0B0B0B0B0B0B0B0B0B0B0B0B1E1E1E1E1E1E1E1E1E1E1E,
    0x0505050505050505050505050505050505051E05050505050505050505050505,
    0x0505050505050505050505050707070606060707060706061212121212120605,
    0x05061E1E1E1E1E1E1E1E1E1E1E1E1E1E1E1E1E1E1E1E1E1E1E1E1E1E1E1E1E1E,
    0x1E1E1E1E1E1E1E1E1E1E1E1E1E1E1E1E1E1E1E1E1E1E1E1E1E1E1E1E1E1E1E1E,
    0x050505050505051E051E050505051E0505050505050505050505050505051E05,
    0x050505050505050505121E1E1E1E1E1E05050505050505050505050505050505,
    0x0505050505050505050505050505050505050505050505050505050505050506,
    0x07070706060606060606061E1E1E1E1E090909090909090909091E1E1E1E1E1E,
    0x060607071E05050505050505051E1E05051E1E05050505050505050505050505,
    0x0505050505050505051E050505050505051E05051E05050505051E0606050707,
    0x06070707071E1E07071E1E0707071E1E051E1E1E1E1E1E071E1E1E1E1E050505,
    0x050507071E1E060606060606061E1E1E06060606061E1E1E1E1E1E1E1E1E1E1E,
    0x1E1E1E1E1E1E1E1E1E1E1E1E1E1E1E1E1E1E1E1E1E1E1E1E1E1E1E1E1E1E1E1E,
    0x1E1E1E1E1E1E1E1E1E1E1E1E1E1E1E1E1E1E1E1E1E1E1E1E1E1E1E1E1E1E1E1E,
    0x1E1E1E1E1E1E1E1E1E1E1E1E1E1E1E1E1E1E1E1E1E1E1E1E1E1E1E1E1E1E1E1E,
    0x1E1E1E1E1E1E1E1E1E1E1E1E1E1E1E1E1E1E1E1E1E1E1E1E1E1E1E1E1E1E1E1E,
    0x0505050505050505050505050505050505050505050505050505050505050505,
    0x0505050505050505050505050505050505050505050707070606060606060606,
    0x070706060607060505050512121212120909090909090909090912121E120605,
    0x05051E1E1E1E1E1E1E1E1E1E1E1E1E1E1E1E1E1E1E1E1E1E1E1E1E1E1E1E1E1E,
    0x0505050505050505050505050505050505050505050505050505050505050505,
    0x0505050505050505050505050505050507070706060606060607060707070706,
    0x06070606050512051E1E1E1E1E1E1E1E090909090909090909091E1E1E1E1E1E,
    0x1E1E1E1E1E1E1E1E1E1E1E1E1E1E1E1E1E1E1E1E1E1E1E1E1E1E1E1E1E1E1E1E,
    0x1E1E1E1E1E1E1E1E1E1E1E1E1E1E1E1E1E1E1E1E1E1E1E1E1E1E1E1E1E1E1E1E,
    0x1E1E1E1E1E1E1E1E1E1E1E1E1E1E1E1E1E1E1E1E1E1E1E1E1E1E1E1E1E1E1E1E,
    0x1E1E1E1E1E1E1E1E1E1E1E1E1E1E1E1E1E1E1E1E1E1E1E1E1E1E1E1E1E1E1E1E,
    0x1E1E1E1E1E1E1E1E1E1E1E1E1E1E1E1E1E1E1E1E1E1E1E1E1E1E1E1E1E1E1E1E,
    0x0505050505050505050505050505050505050505050505050505050505050505,
    0x050505050505050505050505050505070707060606061E1E0707070706060706,
    0x0612121212121212121212121212121212121212121212120505050506061E1E,
    0x1E1E1E1E1E1E1E1E1E1E1E1E1E1E1E1E1E1E1E1E1E1E1E1E1E1E1E1E1E1E1E1E,
    0x0505050505050505050505050505050505050505050505050505050505050505,
    0x0505050505050505050505050505050507070706060606060606060707060706,
    0x06121212051E1E1E1E1E1E1E1E1E1E1E090909090909090909091E1E1E1E1E1E,
    0x121212121212121212121212121E1E1E1E1E1E1E1E1E1E1E1E1E1E1E1E1E1E1E,
    0x0505050505050505050505050505050505050505050505050505050505050505,
    0x05050505050505050505050607060707060606060606070605121E1E1E1E1E1E,
    0x090909090909090909091E1E1E1E1E1E1E1E1E1E1E1E1E1E1E1E1E1E1E1E1E1E,
    0x1E1E1E1E1E1E1E1E1E1E1E1E1E1E1E1E1E1E1E1E1E1E1E1E1E1E1E1E1E1E1E1E,
    0x0505050505050505050505050505050505050505050505050505051E1E060606,
    0x0707060606060706060606061E1E1E1E090909090909090909090B0B12121216,
    0x050505050505051E1E1E1E1E1E1E1E1E1E1E1E1E1E1E1E1E1E1E1E1E1E1E1E1E,
    0x1E1E1E1E1E1E1E1E1E1E1E1E1E1E1E1E1E1E1E1E1E1E1E1E1E1E1E1E1E1E1E1E,
    0x1E1E1E1E1E1E1E1E1E1E1E1E1E1E1E1E1E1E1E1E1E1E1E1E1E1E1E1E1E1E1E1E,
    0x1E1E1E1E1E1E1E1E1E1E1E1E1E1E1E1E1E1E1E1E1E1E1E1E1E1E1E1E1E1E1E1E,
    0x1E1E1E1E1E1E1E1E1E1E1E1E1E1E1E1E1E1E1E1E1E1E1E1E1E1E1E1E1E1E1E1E,
    0x1E1E1E1E1E1E1E1E1E1E1E1E1E1E1E1E1E1E1E1E1E1E1E1E1E1E1E1E1E1E1E1E,
    0x0505050505050505050505050505050505050505050505050505050505050505,
    0x050505050505050505050505070707060606060606060606070606121E1E1E1E,
    0x1E1E1E1E1E1E1E1E1E1E1E1E1E1E1E1E1E1E1E1E1E1E1E1E1E1E1E1E1E1E1E1E,
    0x1E1E1E1E1E1E1E1E1E1E1E1E1E1E1E1E1E1E1E1E1E1E1E1E1E1E1E1E1E1E1E1E,
    0x1E1E1E1E1E1E1E1E1E1E1E1E1E1E1E1E1E1E1E1E1E1E1E1E1E1E1E1E1E1E1E1E,
    0x0101010101010101010101010101010101010101010101010101010101010101,
    0x0202020202020202020202020202020202020202020202020202020202020202,
    0x090909090909090909090B0B0B0B0B0B0B0B0B1E1E1E1E1E1E1E1E1E1E1E1E05,
    0x050505050505051E1E051E1E05050505050505051E05051E0505050505050505,
    0x050505050505050505050505050505050707070707071E07071E1E0606070605,
    0x070507061212121E1E1E1E1E1E1E1E1E090909090909090909091E1E1E1E1E1E,
    0x1E1E1E1E1E1E1E1E1E1E1E1E1E1E1E1E1E1E1E1E1E1E1E1E1E1E1E1E1E1E1E1E,
    0x1E1E1E1E1E1E1E1E1E1E1E1E1E1E1E1E1E1E1E1E1E1E1E1E1E1E1E1E1E1E1E1E,
    0x05050505050505051E1E05050505050505050505050505050505050505050505,
    0x0505050505050505050505050505050505070707060606061E1E060607070707,
    0x06051205071E1E1E1E1E1E1E1E1E1E1E1E1E1E1E1E1E1E1E1E1E1E1E1E1E1E1E,
    0x0506060606060606060606050505050505050505050505050505050505050505,
    0x0505050505050505050505050505050505050506060606060607050606060612,
    0x12121212121212061E1E1E1E1E1E1E1E05060606060606070706060605050505,
    0x0505050505050505050505050505050505050505050505050505050505050505,
    0x0505050505050505050506060606060606060606060606070606121212051212,
    0x1212121E1E1E1E1E1E1E1E1E1E1E1E1E05050505050505050505050505050505,
    0x0505050505050505050505050505050505050505050505050505050505050505,
    0x050505050505050505050505050505050505050505050505051E1E1E1E1E1E1E,
    0x121212121212121212121E1E1E1E1E1E1E1E1E1E1E1E1E1E1E1E1E1E1E1E1E1E,
    0x1E1E1E1E1E1E1E1E1E1E1E1E1E1E1E1E1E1E1E1E1E1E1E1E1E1E1E1E1E1E1E1E,
    0x1E1E1E1E1E1E1E1E1E1E1E1E1E1E1E1E1E1E1E1E1E1E1E1E1E1E1E1E1E1E1E1E,
    0x1E1E1E1E1E1E1E1E1E1E1E1E1E1E1E1E1E1E1E1E1E1E1E1E1E1E1E1E1E1E1E1E,
    0x1E1E1E1E1E1E1E1E1E1E1E1E1E1E1E1E1E1E1E1E1E1E1E1E1E1E1E1E1E1E1E1E,
    0x1E1E1E1E1E1E1E1E1E1E1E1E1E1E1E1E1E1E1E1E1E1E1E1E1E1E1E1E1E1E1E1E,
    0x1E1E1E1E1E1E1E1E1E1E1E1E1E1E1E1E1E1E1E1E1E1E1E1E1E1E1E1E1E1E1E1E,
    0x1E1E1E1E1E1E1E1E1E1E1E1E1E1E1E1E1E1E1E1E1E1E1E1E1E1E1E1E1E1E1E1E,
    0x0505050505050505051E05050505050505050505050505050505050505050505,
    0x05050505050505050505050505050507060606060606061E0606060606060706,
    0x0512121212121E1E1E1E1E1E1E1E1E1E090909090909090909090B0B0B0B0B0B,
    0x0B0B0B0B0B0B0B0B0B0B0B0B0B1E1E1E12120505050505050505050505050505,
    0x050505050505050505050505050505051E1E0606060606060606060606060606,
    0x06060606060606061E07060606060606060706060706061E1E1E1E1E1E1E1E1E,
    0x1E1E1E1E1E1E1E1E1E1E1E1E1E1E1E1E1E1E1E1E1E1E1E1E1E1E1E1E1E1E1E1E,
    0x1E1E1E1E1E1E1E1E1E1E1E1E1E1E1E1E1E1E1E1E1E1E1E1E1E1E1E1E1E1E1E1E,
    0x050505050505051E05051E050505050505050505050505050505050505050505,
    0x05050505050505050505050505050505050606060606061E1E1E061E06061E06,
    0x06060606060605061E1E1E1E1E1E1E1E090909090909090909091E1E1E1E1E1E,
    0x0505050505051E05051E05050505050505050505050505050505050505050505,
    0x0505050505050505050507070707071E06061E0707060706051E1E1E1E1E1E1E,
    0x090909090909090909091E1E1E1E1E1E1E1E1E1E1E1E1E1E1E1E1E1E1E1E1E1E,
    0x1E1E1E1E1E1E1E1E1E1E1E1E1E1E1E1E1E1E1E1E1E1E1E1E1E1E1E1E1E1E1E1E,
    0x1E1E1E1E1E1E1E1E1E1E1E1E1E1E1E1E1E1E1E1E1E1E1E1E1E1E1E1E1E1E1E1E,
    0x1E1E1E1E1E1E1E1E1E1E1E1E1E1E1E1E1E1E1E1E1E1E1E1E1E1E1E1E1E1E1E1E,
    0x1E1E1E1E1E1E1E1E1E1E1E1E1E1E1E1E1E1E1E1E1E1E1E1E1E1E1E1E1E1E1E1E,
    0x1E1E1E1E1E1E1E1E1E1E1E1E1E1E1E1E1E1E1E1E1E1E1E1E1E1E1E1E1E1E1E1E,
    0x1E1E1E1E1E1E1E1E1E1E1E1E1E1E1E1E1E1E1E1E1E1E1E1E1E1E1E1E1E1E1E1E,
    0x1E1E1E1E1E1E1E1E1E1E1E1E1E1E1E1E1E1E1E1E1E1E1E1E1E1E1E1E1E1E1E1E,
    0x1E1E1E1E1E1E1E1E1E1E1E1E1E1E1E1E1E1E1E1E1E1E1E1E1E1E1E1E1E1E1E1E,
    0x1E1E1E1E1E1E1E1E1E1E1E1E1E1E1E1E1E1E1E1E1E1E1E1E1E1E1E1E1E1E1E1E,
    0x050505050505050505050505050505050505050606070712121E1E1E1E1E1E1E,
    0x06060507050505050505050505050505051E0505050505050505050505050505,
    0x0505050505050505050505050505050505050505070706060606061E1E1E0707,
    0x06070612121212121212121212121212090909090909090909091E1E1E1E1E1E,
    0x1E1E1E1E1E1E1E1E1E1E1E1E1E1E1E1E1E1E1E1E1E1E1E1E1E1E1E1E1E1E1E1E,
    0x1E1E1E1E1E1E1E1E1E1E1E1E1E1E1E1E1E1E1E1E1E1E1E1E1E1E1E1E1E1E1E1E,
    0x1E1E1E1E1E1E1E1E1E1E1E1E1E1E1E1E051E1E1E1E1E1E1E1E1E1E1E1E1E1E1E,
    0x0B0B0B0B0B0B0B0B0B0B0B0B0B0B0B0B0B0B0B0B0B1616161616161616141414,
    0x1416161616161616161616161616161616161E1E1E1E1E1E1E1E1E1E1E1E1E12,
    0x0505050505050505050505050505050505050505050505050505050505050505,
    0x0505050505050505050505050505050505050505050505050505050505050505,
    0x0505050505050505050505050505050505050505050505050505050505050505,
    0x0505050505050505050505050505050505050505050505050505050505050505,
    0x05050505050505050505050505050505050505050505050505051E1E1E1E1E1E,
    0x1E1E1E1E1E1E1E1E1E1E1E1E1E1E1E1E1E1E1E1E1E1E1E1E1E1E1E1E1E1E1E1E,
    0x1E1E1E1E1E1E1E1E1E1E1E1E1E1E1E1E1E1E1E1E1E1E1E1E1E1E1E1E1E1E1E1E,
    0x1E1E1E1E1E1E1E1E1E1E1E1E1E1E1E1E1E1E1E1E1E1E1E1E1E1E1E1E1E1E1E1E,
    0x0A0A0A0A0A0A0A0A0A0A0A0A0A0A0A0A0A0A0A0A0A0A0A0A0A0A0A0A0A0A0A0A,
    0x0A0A0A0A0A0A0A0A0A0A0A0A0A0A0A0A0A0A0A0A0A0A0A0A0A0A0A0A0A0A0A0A,
    0x0A0A0A0A0A0A0A0A0A0A0A0A0A0A0A0A0A0A0A0A0A0A0A0A0A0A0A0A0A0A0A0A,
    0x0A0A0A0A0A0A0A0A0A0A0A0A0A0A0A1E12121212121E1E1E1E1E1E1E1E1E1E1E,
    0x0505050505050505050505050505050505050505050505050505050505050505,
    0x0505050505050505050505050505050505050505050505050505050505050505,
    0x0505050505050505050505050505050505050505050505050505050505050505,
    0x0505050505050505050505050505050505050505050505050505050505050505,
    0x0505050505050505050505050505050505050505050505050505050505050505,
    0x0505050505050505050505050505050505050505050505050505050505050505,
    0x050505051E1E1E1E1E1E1E1E1E1E1E1E1E1E1E1E1E1E1E1E1E1E1E1E1E1E1E1E,
    0x1E1E1E1E1E1E1E1E1E1E1E1E1E1E1E1E1E1E1E1E1E1E1E1E1E1E1E1E1E1E1E1E,
    0x1E1E1E1E1E1E1E1E1E1E1E1E1E1E1E1E1E1E1E1E1E1E1E1E1E1E1E1E1E1E1E1E,
    0x1E1E1E1E1E1E1E1E1E1E1E1E1E1E1E1E1E1E1E1E1E1E1E1E1E1E1E1E1E1E1E1E,
    0x1E1E1E1E1E1E1E1E1E1E1E1E1E1E1E1E1E1E1E1E1E1E1E1E1E1E1E1E1E1E1E1E,
    0x1E1E1E1E1E1E1E1E1E1E1E1E1E1E1E1E1E1E1E1E1E1E1E1E1E1E1E1E1E1E1E1E,
    0x1E1E1E1E1E1E1E1E1E1E1E1E1E1E1E1E1E1E1E1E1E1E1E1E1E1E1E1E1E1E1E1E,
    0x1E1E1E1E1E1E1E1E1E1E1E1E1E1E1E1E1E1E1E1E1E1E1E1E1E1E1E1E1E1E1E1E,
    0x1E1E1E1E1E1E1E1E1E1E1E1E1E1E1E1E1E1E1E1E1E1E1E1E1E1E1E1E1E1E1E1E,
    0x1E1E1E1E1E1E1E1E1E1E1E1E1E1E1E1E1E1E1E1E1E1E1E1E1E1E1E1E1E1E1E1E,
    0x1E1E1E1E1E1E1E1E1E1E1E1E1E1E1E1E1E1E1E1E1E1E1E1E1E1E1E1E1E1E1E1E,
    0x1E1E1E1E1E1E1E1E1E1E1E1E1E1E1E1E1E1E1E1E1E1E1E1E1E1E1E1E1E1E1E1E,
    0x1E1E1E1E1E1E1E1E1E1E1E1E1E1E1E1E1E1E1E1E1E1E1E1E1E1E1E1E1E1E1E1E,
    0x1E1E1E1E1E1E1E1E1E1E1E1E1E1E1E1E1E1E1E1E1E1E1E1E1E1E1E1E1E1E1E1E,
    0x1E1E1E1E1E1E1E1E1E1E1E1E1E1E1E1E1E1E1E1E1E1E1E1E1E1E1E1E1E1E1E1E,
    0x1E1E1E1E1E1E1E1E1E1E1E1E1E1E1E1E1E1E1E1E1E1E1E1E1E1E1E1E1E1E1E1E,
    0x1E1E1E1E1E1E1E1E1E1E1E1E1E1E1E1E1E1E1E1E1E1E1E1E1E1E1E1E1E1E1E1E,
    0x1E1E1E1E1E1E1E1E1E1E1E1E1E1E1E1E1E1E1E1E1E1E1E1E1E1E1E1E1E1E1E1E,
    0x1E1E1E1E1E1E1E1E1E1E1E1E1E1E1E1E05050505050505050505050505050505,
    0x0505050505050505050505050505050505050505050505050505050505050505,
    0x0505050505050505050505050505050505050505050505050505050505050505,
    0x050505050505050505050505050505050512121E1E1E1E1E1E1E1E1E1E1E1E1E,
    0x0505050505050505050505050505050505050505050505050505050505050505,
    0x050505050505050505050505050505051B1B1B1B1B1B1B1B1B1B1B1B1B1B1B1B,
    0x060505050505050606060606060606060606060606061E1E1E1E1E1E1E1E1E1E,
    0x1E1E1E1E1E1E1E1E1E1E1E1E1E1E1E1E1E1E1E1E1E1E1E1E1E1E1E1E1E1E1E1E,
    0x1E1E1E1E1E1E1E1E1E1E1E1E1E1E1E1E1E1E1E1E1E1E1E1E1E1E1E1E1E1E1E1E,
    0x1E1E1E1E1E1E1E1E1E1E1E1E1E1E1E1E1E1E1E1E1E1E1E1E1E1E1E1E1E1E1E1E,
    0x1E1E1E1E1E1E1E1E1E1E1E1E1E1E1E1E1E1E1E1E1E1E1E1E1E1E1E1E1E1E1E1E,
    0x1E1E1E1E1E1E1E1E1E1E1E1E1E1E1E1E1E1E1E1E1E1E1E1E1E1E1E1E1E1E1E1E,
    0x0505050505050505050505050505050505050505050505050505050505050505,
    0x0505050505050505050505050505050505050505050505050505050505050505,
    0x050505050505051E1E1E1E1E1E1E1E1E1E1E1E1E1E1E1E1E1E1E1E1E1E1E1E1E,
    0x1E1E1E1E1E1E1E1E1E1E1E1E1E1E1E1E1E1E1E1E1E1E1E1E1E1E1E1E1E1E1E1E,
    0x1E1E1E1E1E1E1E1E1E1E1E1E1E1E1E1E1E1E1E1E1E1E1E1E1E1E1E1E1E1E1E1E,
    0x1E1E1E1E1E1E1E1E1E1E1E1E1E1E1E1E1E1E1E1E1E1E1E1E1E1E1E1E1E1E1E1E,
    0x1E1E1E1E1E1E1E1E1E1E1E1E1E1E1E1E1E1E1E1E1E1E1E1E1E1E1E1E1E1E1E1E,
    0x1E1E1E1E1E1E1E1E1E1E1E1E1E1E1E1E1E1E1E1E1E1E1E1E1E1E1E1E1E1E1E1E,
    0x0505050505050505050505050505050505050505050505050505050505050505,
    0x050505050505050505050505050505050505050505050505051E1E1E1E1E1E1E,
    0x050505050505050505050505050505050505050505050505050505050505051E,
    0x090909090909090909091E1E1E1E121205050505050505050505050505050505,
    0x0505050505050505050505050505050505050505050505050505050505050505,
    0x050505050505050505050505050505050505050505050505050505050505051E,
    0x090909090909090909091E1E1E1E1E1E05050505050505050505050505050505,
    0x05050505050505050505050505051E1E0606060606121E1E1E1E1E1E1E1E1E1E,
    0x0505050505050505050505050505050505050505050505050505050505050505,
    0x0505050505050505050505050505050506060606060606121212121216161616,
    0x0404040412161E1E1E1E1E1E1E1E1E1E090909090909090909091E0B0B0B0B0B,
    0x0B0B1E0505050505050505050505050505050505050505051E1E1E1E1E050505,
    0x050505050505050505050505050505051E1E1E1E1E1E1E1E1E1E1E1E1E1E1E1E,
    0x1E1E1E1E1E1E1E1E1E1E1E1E1E1E1E1E1E1E1E1E1E1E1E1E1E1E1E1E1E1E1E1E,
    0x1E1E1E1E1E1E1E1E1E1E1E1E1E1E1E1E1E1E1E1E1E1E1E1E1E1E1E1E1E1E1E1E,
    0x1E1E1E1E1E1E1E1E1E1E1E1E1E1E1E1E1E1E1E1E1E1E1E1E1E1E1E1E1E1E1E1E,
    0x1E1E1E1E1E1E1E1E1E1E1E1E1E1E1E1E1E1E1E1E1E1E1E1E1E1E1E1E1E1E1E1E,
    0x1E1E1E1E1E1E1E1E1E1E1E1E1E1E1E1E1E1E1E1E1E1E1E1E1E1E1E1E1E1E1E1E,
    0x0101010101010101010101010101010101010101010101010101010101010101,
    0x0202020202020202020202020202020202020202020202020202020202020202,
    0x0B0B0B0B0B0B0B0B0B0B0B0B0B0B0B0B0B0B0B0B0B0B0B121212121E1E1E1E1E,
    0x1E1E1E1E1E1E1E1E1E1E1E1E1E1E1E1E1E1E1E1E1E1E1E1E1E1E1E1E1E1E1E1E,
    0x1E1E1E1E1E1E1E1E1E1E1E1E1E1E1E1E1E1E1E1E1E1E1E1E1E1E1E1E1E1E1E1E,
    0x1E1E1E1E1E1E1E1E1E1E1E1E1E1E1E1E1E1E1E1E1E1E1E1E1E1E1E1E1E1E1E1E,
    0x0505050505050505050505050505050505050505050505050505050505050505,
    0x0505050505050505050505050505050505050505050505050505050505050505,
    0x05050505050505050505051E1E1E1E0605070707070707070707070707070707,
    0x0707070707070707070707070707070707070707070707070707070707070707,
    0x07070707070707071E1E1E1E1E1E1E0606060604040404040404040404040404,
    0x1E1E1E1E1E1E1E1E1E1E1E1E1E1E1E1E1E1E1E1E1E1E1E1E1E1E1E1E1E1E1E1E,
    0x1E1E1E1E1E1E1E1E1E1E1E1E1E1E1E1E1E1E1E1E1E1E1E1E1E1E1E1E1E1E1E1E,
    0x04041204061E1E1E1E1E1E1E1E1E1E1E07071E1E1E1E1E1E1E1E1E1E1E1E1E1E,
    0x0505050505050505050505050505050505050505050505050505050505050505,
    0x0505050505050505050505050505050505050505050505050505050505050505,
    0x0505050505050505050505050505050505050505050505050505050505050505,
    0x0505050505050505050505050505050505050505050505050505050505050505,
    0x0505050505050505050505050505050505050505050505050505050505050505,
    0x0505050505050505050505050505050505050505050505050505050505050505,
    0x0505050505050505050505050505050505050505050505050505050505050505,
    0x0505050505050505050505050505050505050505050505051E1E1E1E1E1E1E1E,
    0x0505050505050505050505050505050505050505050505050505050505050505,
    0x0505050505050505050505050505050505050505050505050505050505050505,
    0x0505050505050505050505050505050505050505050505050505050505050505,
    0x0505050505050505050505050505050505050505050505050505050505050505,
    0x0505050505050505050505050505050505050505050505050505050505050505,
    0x0505050505050505050505050505050505050505050505050505050505050505,
    0x050505050505050505050505050505050505050505051E1E1E1E1E1E1E1E1E1E,
    0x1E1E1E1E1E1E1E1E1E1E1E1E1E1E1E1E1E1E1E1E1E1E1E1E1E1E1E1E1E1E1E1E,
    0x0505050505050505051E1E1E1E1E1E1E1E1E1E1E1E1E1E1E1E1E1E1E1E1E1E1E,
    0x1E1E1E1E1E1E1E1E1E1E1E1E1E1E1E1E1E1E1E1E1E1E1E1E1E1E1E1E1E1E1E1E,
    0x1E1E1E1E1E1E1E1E1E1E1E1E1E1E1E1E1E1E1E1E1E1E1E1E1E1E1E1E1E1E1E1E,
    0x1E1E1E1E1E1E1E1E1E1E1E1E1E1E1E1E1E1E1E1E1E1E1E1E1E1E1E1E1E1E1E1E,
    0x1E1E1E1E1E1E1E1E1E1E1E1E1E1E1E1E1E1E1E1E1E1E1E1E1E1E1E1E1E1E1E1E,
    0x1E1E1E1E1E1E1E1E1E1E1E1E1E1E1E1E1E1E1E1E1E1E1E1E1E1E1E1E1E1E1E1E,
    0x1E1E1E1E1E1E1E1E1E1E1E1E1E1E1E1E1E1E1E1E1E1E1E1E1E1E1E1E1E1E1E1E,
    0x1E1E1E1E1E1E1E1E1E1E1E1E1E1E1E1E1E1E1E1E1E1E1E1E1E1E1E1E1E1E1E1E,
    0x1E1E1E1E1E1E1E1E1E1E1E1E1E1E1E1E1E1E1E1E1E1E1E1E1E1E1E1E1E1E1E1E,
    0x1E1E1E1E1E1E1E1E1E1E1E1E1E1E1E1E1E1E1E1E1E1E1E1E1E1E1E1E1E1E1E1E,
    0x1E1E1E1E1E1E1E1E1E1E1E1E1E1E1E1E1E1E1E1E1E1E1E1E1E1E1E1E1E1E1E1E,
    0x1E1E1E1E1E1E1E1E1E1E1E1E1E1E1E1E1E1E1E1E1E1E1E1E1E1E1E1E1E1E1E1E,
    0x1E1E1E1E1E1E1E1E1E1E1E1E1E1E1E1E1E1E1E1E1E1E1E1E1E1E1E1E1E1E1E1E,
    0x1E1E1E1E1E1E1E1E1E1E1E1E1E1E1E1E1E1E1E1E1E1E1E1E1E1E1E1E1E1E1E1E,
    0x1E1E1E1E1E1E1E1E1E1E1E1E1E1E1E1E1E1E1E1E1E1E1E1E1E1E1E1E1E1E1E1E,
    0x1E1E1E1E1E1E1E1E1E1E1E1E1E1E1E1E040404041E040404040404041E04041E,
    0x0505050505050505050505050505050505050505050505050505050505050505,
    0x0505051E1E1E1E1E1E1E1E1E1E1E1E1E1E1E051E1E1E1E1E1E1E1E1E1E1E1E1E,
    0x1E1E1E1E1E1E1E1E1E1E1E1E1E1E1E1E0505051E1E051E1E1E1E1E1E1E1E1E1E,
    0x1E1E1E1E050505051E1E1E1E1E1E1E1E05050505050505050505050505050505,
    0x0505050505050505050505050505050505050505050505050505050505050505,
    0x0505050505050505050505050505050505050505050505050505050505050505,
    0x0505050505050505050505050505050505050505050505050505050505050505,
    0x0505050505050505050505050505050505050505050505050505050505050505,
    0x0505050505050505050505050505050505050505050505050505050505050505,
    0x0505050505050505050505050505050505050505050505050505050505050505,
    0x0505050505050505050505050505050505050505050505050505050505050505,
    0x0505050505050505050505050505050505050505050505050505050505050505,
    0x0505050505050505050505050505050505050505050505050505050505050505,
    0x0505050505050505050505050505050505050505050505050505050505050505,
    0x0505050505050505050505050505050505050505050505050505050505050505,
    0x050505050505050505050505050505050505050505050505050505051E1E1E1E,
    0x0505050505050505050505050505050505050505050505050505050505050505,
    0x0505050505050505050505050505050505050505050505050505050505050505,
    0x0505050505050505050505050505050505050505050505050505050505050505,
    0x05050505050505050505051E1E1E1E1E050505050505050505050505051E1E1E,
    0x0505050505050505051E1E1E1E1E1E1E050505050505050505051E1E16060612,
    0x1B1B1B1B1E1E1E1E1E1E1E1E1E1E1E1E1E1E1E1E1E1E1E1E1E1E1E1E1E1E1E1E,
    0x1E1E1E1E1E1E1E1E1E1E1E1E1E1E1E1E1E1E1E1E1E1E1E1E1E1E1E1E1E1E1E1E,
    0x1E1E1E1E1E1E1E1E1E1E1E1E1E1E1E1E1E1E1E1E1E1E1E1E1E1E1E1E1E1E1E1E,
    0x0606060606060606060606060606060606060606060606060606060606060606,
    0x06060606060606060606060606061E1E06060606060606060606060606060606,
    0x060606060606061E1E1E1E1E1E1E1E1E16161616161616161616161616161616,
    0x1616161616161616161616161616161616161616161616161616161616161616,
    0x1616161616161616161616161616161616161616161616161616161616161616,
    0x1616161616161616161616161616161616161616161616161616161616161616,
    0x161616161E1E1E1E1E1E1E1E1E1E1E1E1E1E1E1E1E1E1E1E1E1E1E1E1E1E1E1E,
    0x1E1E1E1E1E1E1E1E1E1E1E1E1E1E1E1E1E1E1E1E1E1E1E1E1E1E1E1E1E1E1E1E,
    0x1616161616161616161616161616161616161616161616161616161616161616,
    0x1616161616161616161616161616161616161616161616161616161616161616,
    0x1616161616161616161616161616161616161616161616161616161616161616,
    0x1616161616161616161616161616161616161616161616161616161616161616,
    0x1616161616161616161616161616161616161616161616161616161616161616,
    0x1616161616161616161616161616161616161616161616161616161616161616,
    0x1616161616161616161616161616161616161616161616161616161616161616,
    0x161616161616161616161616161616161616161616161E1E1E1E1E1E1E1E1E1E,
    0x1616161616161616161616161616161616161616161616161616161616161616,
    0x161616161616161E1E1616161616161616161616161616161616161616161616,
    0x1616161616161616161616161616161616161616161616161616161616161616,
    0x161616161607070606061616160707070707071B1B1B1B1B1B1B1B0606060606,
    0x0606061616060606060606061616161616161616161616161616161616161616,
    0x1616161616161616161606060606161616161616161616161616161616161616,
    0x1616161616161616161616161616161616161616161616161616161616161616,
    0x16161616161616161616161E1E1E1E1E1E1E1E1E1E1E1E1E1E1E1E1E1E1E1E1E,
    0x1616161616161616161616161616161616161616161616161616161616161616,
    0x1616161616161616161616161616161616161616161616161616161616161616,
    0x1616060606161E1E1E1E1E1E1E1E1E1E1E1E1E1E1E1E1E1E1E1E1E1E1E1E1E1E,
    0x1E1E1E1E1E1E1E1E1E1E1E1E1E1E1E1E1E1E1E1E1E1E1E1E1E1E1E1E1E1E1E1E,
    0x1E1E1E1E1E1E1E1E1E1E1E1E1E1E1E1E1E1E1E1E1E1E1E1E1E1E1E1E1E1E1E1E,
    0x1E1E1E1E1E1E1E1E1E1E1E1E1E1E1E1E1E1E1E1E1E1E1E1E1E1E1E1E1E1E1E1E,
    0x0B0B0B0B0B0B0B0B0B0B0B0B0B0B0B0B0B0B0B0B1E1E1E1E1E1E1E1E1E1E1E1E,
    0x0B0B0B0B0B0B0B0B0B0B0B0B0B0B0B0B0B0B0B0B1E1E1E1E1E1E1E1E1E1E1E1E,
    0x1616161616161616161616161616161616161616161616161616161616161616,
    0x1616161616161616161616161616161616161616161616161616161616161616,
    0x16161616161616161616161616161616161616161616161E1E1E1E1E1E1E1E1E,
    0x0B0B0B0B0B0B0B0B0B0B0B0B0B0B0B0B0B0B0B0B0B0B0B0B0B1E1E1E1E1E1E1E,
    0x1E1E1E1E1E1E1E1E1E1E1E1E1E1E1E1E1E1E1E1E1E1E1E1E1E1E1E1E1E1E1E1E,
    0x1E1E1E1E1E1E1E1E1E1E1E1E1E1E1E1E1E1E1E1E1E1E1E1E1E1E1E1E1E1E1E1E,
    0x1E1E1E1E1E1E1E1E1E1E1E1E1E1E1E1E1E1E1E1E1E1E1E1E1E1E1E1E1E1E1E1E,
    0x1E1E1E1E1E1E1E1E1E1E1E1E1E1E1E1E1E1E1E1E1E1E1E1E1E1E1E1E1E1E1E1E,
    0x0101010101010101010101010101010101010101010101010101020202020202,
    0x0202020202020202020202020202020202020202010101010101010101010101,
    0x0101010101010101010101010101020202020202021E02020202020202020202,
    0x0202020202020202010101010101010101010101010101010101010101010101,
    0x01010202020202020202020202020202020202020202020202020202011E0101,
    0x1E1E011E1E01011E1E010101011E0101010101010101020202021E021E020202,
    0x020202021E020202020202020202020201010101010101010101010101010101,
    0x0101010101010101010102020202020202020202020202020202020202020202,
    0x0202020201011E010101011E1E01010101010101011E010101010101011E0202,
    0x02020202020202020202020202020202020202020202020201011E010101011E,
    0x01010101011E011E1E1E010101010101011E0202020202020202020202020202,
    0x0202020202020202020202020101010101010101010101010101010101010101,
    0x0101010101010202020202020202020202020202020202020202020202020202,
    0x0101010101010101010101010101010101010101010101010101020202020202,
    0x0202020202020202020202020202020202020202010101010101010101010101,
    0x0101010101010101010101010101020202020202020202020202020202020202,
    0x0202020202020202010101010101010101010101010101010101010101010101,
    0x0101020202020202020202020202020202020202020202020202020201010101,
    0x0101010101010101010101010101010101010101010102020202020202020202,
    0x0202020202020202020202020202020201010101010101010101010101010101,
    0x0101010101010101010102020202020202020202020202020202020202020202,
    0x0202020202021E1E010101010101010101010101010101010101010101010101,
    0x0113020202020202020202020202020202020202020202020202021302020202,
    0x0202010101010101010101010101010101010101010101010101011302020202,
    0x0202020202020202020202020202020202020202021302020202020201010101,
    0x0101010101010101010101010101010101010101011302020202020202020202,
    0x0202020202020202020202020202021302020202020201010101010101010101,
    0x0101010101010101010101010101011302020202020202020202020202020202,
    0x0202020202020202021302020202020201010101010101010101010101010101,
    0x0101010101010101011302020202020202020202020202020202020202020202,
    0x0202021302020202020201021E1E090909090909090909090909090909090909,
    0x0909090909090909090909090909090909090909090909090909090909090909,
    0x0606060606060606060606060606060606060606060606060606060606060606,
    0x0606060606060606060606060606060606060606060606161616160606060606,
    0x0606060606060606060606060606060606060606060606060606060606060606,
    0x0606060606060606060606060616161616161616160616161616161616161616,
    0x1616161606161612121212121E1E1E1E1E1E1E1E1E1E1E1E1E1E1E0606060606,
    0x1E0606060606060606060606060606061E1E1E1E1E1E1E1E1E1E1E1E1E1E1E1E,
    0x1E1E1E1E1E1E1E1E1E1E1E1E1E1E1E1E1E1E1E1E1E1E1E1E1E1E1E1E1E1E1E1E,
    0x1E1E1E1E1E1E1E1E1E1E1E1E1E1E1E1E1E1E1E1E1E1E1E1E1E1E1E1E1E1E1E1E,
    0x020202020202020202020502020202020202020202020202020202020202021E,
    0x1E1E1E1E1E0202020202021E1E1E1E1E1E1E1E1E1E1E1E1E1E1E1E1E1E1E1E1E,
    0x1E1E1E1E1E1E1E1E1E1E1E1E1E1E1E1E1E1E1E1E1E1E1E1E1E1E1E1E1E1E1E1E,
    0x1E1E1E1E1E1E1E1E1E1E1E1E1E1E1E1E1E1E1E1E1E1E1E1E1E1E1E1E1E1E1E1E,
    0x1E1E1E1E1E1E1E1E1E1E1E1E1E1E1E1E1E1E1E1E1E1E1E1E1E1E1E1E1E1E1E1E,
    0x1E1E1E1E1E1E1E1E1E1E1E1E1E1E1E1E1E1E1E1E1E1E1E1E1E1E1E1E1E1E1E1E,
    0x1E1E1E1E1E1E1E1E1E1E1E1E1E1E1E1E1E1E1E1E1E1E1E1E1E1E1E1E1E1E1E1E,
    0x1E1E1E1E1E1E1E1E1E1E1E1E1E1E1E1E1E1E1E1E1E1E1E1E1E1E1E1E1E1E1E1E,
    0x060606060606061E06060606060606060606060606060606061E1E0606060606,
    0x06061E06061E06060606061E1E1E1E1E04040404040404040404040404040404,
    0x0404040404040404040404040404040404040404040404040404040404040404,
    0x04040404040404040404040404041E1E1E1E1E1E1E1E1E1E1E1E1E1E1E1E1E1E,
    0x1E1E1E1E1E1E1E1E1E1E1E1E1E1E1E061E1E1E1E1E1E1E1E1E1E1E1E1E1E1E1E,
    0x1E1E1E1E1E1E1E1E1E1E1E1E1E1E1E1E1E1E1E1E1E1E1E1E1E1E1E1E1E1E1E1E,
    0x1E1E1E1E1E1E1E1E1E1E1E1E1E1E1E1E1E1E1E1E1E1E1E1E1E1E1E1E1E1E1E1E,
    0x1E1E1E1E1E1E1E1E1E1E1E1E1E1E1E1E1E1E1E1E1E1E1E1E1E1E1E1E1E1E1E1E,
    0x0505050505050505050505050505050505050505050505050505050505050505,
    0x050505050505050505050505051E1E1E06060606060606040404040404041E1E,
    0x090909090909090909091E1E1E1E05161E1E1E1E1E1E1E1E1E1E1E1E1E1E1E1E,
    0x1E1E1E1E1E1E1E1E1E1E1E1E1E1E1E1E1E1E1E1E1E1E1E1E1E1E1E1E1E1E1E1E,
    0x1E1E1E1E1E1E1E1E1E1E1E1E1E1E1E1E1E1E1E1E1E1E1E1E1E1E1E1E1E1E1E1E,
    0x1E1E1E1E1E1E1E1E1E1E1E1E1E1E1E1E1E1E1E1E1E1E1E1E1E1E1E1E1E1E1E1E,
    0x1E1E1E1E1E1E1E1E1E1E1E1E1E1E1E1E1E1E1E1E1E1E1E1E1E1E1E1E1E1E1E1E,
    0x1E1E1E1E1E1E1E1E1E1E1E1E1E1E1E1E1E1E1E1E1E1E1E1E1E1E1E1E1E1E1E1E,
    0x1E1E1E1E1E1E1E1E1E1E1E1E1E1E1E1E1E1E1E1E1E1E1E1E1E1E1E1E1E1E1E1E,
    0x1E1E1E1E1E1E1E1E1E1E1E1E1E1E1E1E1E1E1E1E1E1E1E1E1E1E1E1E1E1E1E1E,
    0x1E1E1E1E1E1E1E1E1E1E1E1E1E1E1E1E1E1E1E1E1E1E1E1E1E1E1E1E1E1E1E1E,
    0x1E1E1E1E1E1E1E1E1E1E1E1E1E1E1E1E1E1E1E1E1E1E1E1E1E1E1E1E1E1E1E1E,
    0x1E1E1E1E1E1E1E1E1E1E1E1E1E1E1E1E05050505050505050505050505050505,
    0x0505050505050505050505050505061E1E1E1E1E1E1E1E1E1E1E1E1E1E1E1E1E,
    0x0505050505050505050505050505050505050505050505050505050505050505,
    0x05050505050505050505050506060606090909090909090909091E1E1E1E1E14,
    0x1E1E1E1E1E1E1E1E1E1E1E1E1E1E1E1E1E1E1E1E1E1E1E1E1E1E1E1E1E1E1E1E,
    0x1E1E1E1E1E1E1E1E1E1E1E1E1E1E1E1E1E1E1E1E1E1E1E1E1E1E1E1E1E1E1E1E,
    0x1E1E1E1E1E1E1E1E1E1E1E1E1E1E1E1E1E1E1E1E1E1E1E1E1E1E1E1E1E1E1E1E,
    0x1E1E1E1E1E1E1E1E1E1E1E1E1E1E1E1E1E1E1E1E1E1E1E1E1E1E1E1E1E1E1E1E,
    0x1E1E1E1E1E1E1E1E1E1E1E1E1E1E1E1E1E1E1E1E1E1E1E1E1E1E1E1E1E1E1E1E,
    0x1E1E1E1E1E1E1E1E1E1E1E1E1E1E1E1E1E1E1E1E1E1E1E1E1E1E1E1E1E1E1E1E,
    0x1E1E1E1E1E1E1E1E1E1E1E1E1E1E1E1E05050505050505050505050505050505,
    0x05050505050505050505050406060606090909090909090909091E1E1E1E1E1E,
    0x1E1E1E1E1E1E1E1E1E1E1E1E1E1E1E1E1E1E1E1E1E1E1E1E1E1E1E1E1E1E1E1E,
    0x1E1E1E1E1E1E1E1E1E1E1E1E1E1E1E1E1E1E1E1E1E1E1E1E1E1E1E1E1E1E1E1E,
    0x1E1E1E1E1E1E1E1E1E1E1E1E1E1E1E1E1E1E1E1E1E1E1E1E1E1E1E1E1E1E1E1E,
    0x1E1E1E1E1E1E1E1E1E1E1E1E1E1E1E1E1E1E1E1E1E1E1E1E1E1E1E1E1E1E1E1E,
    0x1E1E1E1E1E1E1E1E1E1E1E1E1E1E1E1E1E1E1E1E1E1E1E1E1E1E1E1E1E1E1E1E,
    0x1E1E1E1E1E1E1E1E1E1E1E1E1E1E1E1E1E1E1E1E1E1E1E1E1E1E1E1E1E1E1E1E,
    0x1E1E1E1E1E1E1E1E1E1E1E1E1E1E1E1E1E1E1E1E1E1E1E1E1E1E1E1E1E1E1E1E,
    0x050505050505051E050505051E05051E0505050505050505050505050505051E,
    0x0505050505050505050505050505050505050505050505050505050505050505,
    0x0505050505050505050505050505050505050505050505050505050505050505,
    0x0505050505050505050505050505050505050505050505050505050505050505,
    0x0505050505050505050505050505050505050505050505050505050505050505,
    0x0505050505050505050505050505050505050505050505050505050505050505,
    0x0505050505050505050505050505050505050505050505050505050505050505,
    0x05050505051E1E0B0B0B0B0B0B0B0B0B060606060606061E1E1E1E1E1E1E1E1E,
    0x1E1E1E1E1E1E1E1E1E1E1E1E1E1E1E1E1E1E1E1E1E1E1E1E1E1E1E1E1E1E1E1E,
    0x0101010101010101010101010101010101010101010101010101010101010101,
    0x0101020202020202020202020202020202020202020202020202020202020202,
    0x0202020206060606060606041E1E1E1E090909090909090909091E1E1E1E1212,
    0x1E1E1E1E1E1E1E1E1E1E1E1E1E1E1E1E1E1E1E1E1E1E1E1E1E1E1E1E1E1E1E1E,
    0x1E1E1E1E1E1E1E1E1E1E1E1E1E1E1E1E1E1E1E1E1E1E1E1E1E1E1E1E1E1E1E1E,
    0x1E1E1E1E1E1E1E1E1E1E1E1E1E1E1E1E1E1E1E1E1E1E1E1E1E1E1E1E1E1E1E1E,
    0x1E1E1E1E1E1E1E1E1E1E1E1E1E1E1E1E1E1E1E1E1E1E1E1E1E1E1E1E1E1E1E1E,
    0x1E1E1E1E1E1E1E1E1E1E1E1E1E1E1E1E1E1E1E1E1E1E1E1E1E1E1E1E1E1E1E1E,
    0x1E1E1E1E1E1E1E1E1E1E1E1E1E1E1E1E1E1E1E1E1E1E1E1E1E1E1E1E1E1E1E1E,
    0x1E1E1E1E1E1E1E1E1E1E1E1E1E1E1E1E1E1E1E1E1E1E1E1E1E1E1E1E1E1E1E1E,
    0x1E1E1E1E1E1E1E1E1E1E1E1E1E1E1E1E1E1E1E1E1E1E1E1E1E1E1E1E1E1E1E1E,
    0x1E1E1E1E1E1E1E1E1E1E1E1E1E1E1E1E1E0B0B0B0B0B0B0B0B0B0B0B0B0B0B0B,
    0x0B0B0B0B0B0B0B0B0B0B0B0B0B0B0B0B0B0B0B0B0B0B0B0B0B0B0B0B0B0B0B0B,
    0x0B0B0B0B0B0B0B0B0B0B0B0B160B0B0B140B0B0B0B1E1E1E1E1E1E1E1E1E1E1E,
    0x1E1E1E1E1E1E1E1E1E1E1E1E1E1E1E1E1E1E1E1E1E1E1E1E1E1E1E1E1E1E1E1E,
    0x1E1E1E1E1E1E1E1E1E1E1E1E1E1E1E1E1E1E1E1E1E1E1E1E1E1E1E1E1E1E1E1E,
    0x1E0B0B0B0B0B0B0B0B0B0B0B0B0B0B0B0B0B0B0B0B0B0B0B0B0B0B0B0B0B0B0B,
    0x0B0B0B0B0B0B0B0B0B0B0B0B0B0B160B0B0B0B0B0B0B0B0B0B0B0B0B0B0B1E1E,
    0x1E1E1E1E1E1E1E1E1E1E1E1E1E1E1E1E1E1E1E1E1E1E1E1E1E1E1E1E1E1E1E1E,
    0x1E1E1E1E1E1E1E1E1E1E1E1E1E1E1E1E1E1E1E1E1E1E1E1E1E1E1E1E1E1E1E1E,
    0x1E1E1E1E1E1E1E1E1E1E1E1E1E1E1E1E1E1E1E1E1E1E1E1E1E1E1E1E1E1E1E1E,
    0x1E1E1E1E1E1E1E1E1E1E1E1E1E1E1E1E1E1E1E1E1E1E1E1E1E1E1E1E1E1E1E1E,
    0x1E1E1E1E1E1E1E1E1E1E1E1E1E1E1E1E1E1E1E1E1E1E1E1E1E1E1E1E1E1E1E1E,
    0x1E1E1E1E1E1E1E1E1E1E1E1E1E1E1E1E1E1E1E1E1E1E1E1E1E1E1E1E1E1E1E1E,
    0x050505051E050505050505050505050505050505050505050505050505050505,
    0x1E05051E051E1E051E050505050505050505051E050505051E051E051E1E1E1E,
    0x1E1E051E1E1E1E051E051E051E0505051E05051E051E1E051E051E051E051E05,
    0x1E05051E051E1E050505051E050505050505051E050505051E050505051E051E,
    0x050505050505050505051E05050505050505050505050505050505051E1E1E1E,
    0x1E0505051E05050505051E05050505050505050505050505050505051E1E1E1E,
    0x1E1E1E1E1E1E1E1E1E1E1E1E1E1E1E1E1E1E1E1E1E1E1E1E1E1E1E1E1E1E1E1E,
    0x1E1E1E1E1E1E1E1E1E1E1E1E1E1E1E1E13131E1E1E1E1E1E1E1E1E1E1E1E1E1E,
    0x1616161616161616161616161616161616161616161616161616161616161616,
    0x1616161616161616161616161E1E1E1E16161616161616161616161616161616,
    0x1616161616161616161616161616161616161616161616161616161616161616,
    0x1616161616161616161616161616161616161616161616161616161616161616,
    0x16161616161616161616161616161616161616161E1E1E1E1E1E1E1E1E1E1E1E,
    0x1616161616161616161616161616161E1E161616161616161616161616161616,
    0x1E1616161616161616161616161616161E161616161616161616161616161616,
    0x161616161616161616161616161616161616161616161E1E1E1E1E1E1E1E1E1E,
    0x0B0B0B0B0B0B0B0B0B0B0B0B0B16161616161616161616161616161616161616,
    0x1616161616161616161616161616161616161616161616161616161616161616,
    0x1616161616161616161616161616161616161616161616161616161616161616,
    0x1616161616161616161616161616161616161616161616161616161616161616,
    0x1616161616161616161616161616161616161616161616161616161616161616,
    0x16161616161616161616161616161E1E1E1E1E1E1E1E1E1E1E1E1E1E1E1E1E1E,
    0x1E1E1E1E1E1E1E1E1E1E1E1E1E1E1E1E1E1E1E1E1E1E1E1E1E1E1E1E1E1E1E1E,
    0x1E1E1E1E1E1E1616161616161616161616161616161616161616161616161616,
    0x1616161E1E1E1E1E1E1E1E1E1E1E1E1E16161616161616161616161616161616,
    0x161616161616161616161616161616161616161616161616161616161E1E1E1E,
    0x1616161616161616161E1E1E1E1E1E1E16161E1E1E1E1E1E1E1E1E1E1E1E1E1E,
    0x1616161616161E1E1E1E1E1E1E1E1E1E1E1E1E1E1E1E1E1E1E1E1E1E1E1E1E1E,
    0x1E1E1E1E1E1E1E1E1E1E1E1E1E1E1E1E1E1E1E1E1E1E1E1E1E1E1E1E1E1E1E1E,
    0x1E1E1E1E1E1E1E1E1E1E1E1E1E1E1E1E1E1E1E1E1E1E1E1E1E1E1E1E1E1E1E1E,
    0x1E1E1E1E1E1E1E1E1E1E1E1E1E1E1E1E1E1E1E1E1E1E1E1E1E1E1E1E1E1E1E1E,
    0x1E1E1E1E1E1E1E1E1E1E1E1E1E1E1E1E1E1E1E1E1E1E1E1E1E1E1E1E1E1E1E1E,
    0x1616161616161616161616161616161616161616161616161616161616161616,
    0x1616161616161616161616161616161616161616161616161616161616161616,
    0x1616161616161616161616161616161616161616161616161616161616161616,
    0x1616161616161616161616161616161616161616161616161616161616161616,
    0x1616161616161616161616161616161616161616161616161616161616161616,
    0x1616161616161616161616161616161616161616161616161616161616161616,
    0x1616161616161616161616161616161616161616161616161616161616161616,
    0x1616161616161616161616161616161616161616161616161616161515151515,
    0x1616161616161616161616161616161616161616161616161616161616161616,
    0x1616161616161616161616161616161616161616161616161616161616161616,
    0x1616161616161616161616161616161616161616161616161616161616161616,
    0x1616161616161616161616161616161616161616161616161616161616161616,
    0x1616161616161616161616161616161616161616161616161616161616161616,
    0x1616161616161616161616161616161616161616161616161616161616161616,
    0x1616161616161616161616161616161616161616161616161E1E1E1E16161616,
    0x161616161616161616161616161E1E1E161616161616161616161616161E1E1E,
    0x1616161616161616161616161616161616161616161616161616161616161616,
    0x1616161616161616161616161616161616161616161616161616161616161616,
    0x1616161616161616161616161616161616161616161616161616161616161616,
    0x16161616161616161616161616161616161616161616161E1E1E1E1616161616,
    0x1616161616161616161616161616161616161616161616161616161616161616,
    0x1616161616161616161616161616161616161616161616161616161616161616,
    0x16161616161616161616161616161616161616161616161616161E1E1E1E1E1E,
    0x1616161616161616161616161E1E1E1E161E1E1E1E1E1E1E1E1E1E1E1E1E1E1E,
    0x1616161616161616161616161E1E1E1E16161616161616161616161616161616,
    0x1616161616161616161616161616161616161616161616161616161616161616,
    0x16161616161616161E1E1E1E1E1E1E1E161616161616161616161E1E1E1E1E1E,
    0x1616161616161616161616161616161616161616161616161616161616161616,
    0x16161616161616161E1E1E1E1E1E1E1E16161616161616161616161616161616,
    0x16161616161616161616161616161E1E16161E1E1E1E1E1E1E1E1E1E1E1E1E1E,
    0x1E1E1E1E1E1E1E1E1E1E1E1E1E1E1E1E1E1E1E1E1E1E1E1E1E1E1E1E1E1E1E1E,
    0x1E1E1E1E1E1E1E1E1E1E1E1E1E1E1E1E1E1E1E1E1E1E1E1E1E1E1E1E1E1E1E1E,
    0x1616161616161616161616161616161616161616161616161616161616161616,
    0x1616161616161616161616161616161616161616161616161616161616161616,
    0x16161616161616161616161616161616161616161E1E1E1E1E1E1E1E1E1E1E1E,
    0x16161616161616161616161616161E1E161616161616161616161616161E1E1E,
    0x1616161616161616161E1E1E1E1E1E1E16161616161616161616161616161616,
    0x1616161616161616161616161616161616161616161616161616161616161E16,
    0x1616161616161E1E1E1E1E1E1E1E16161616161616161616161616161E1E1E1E,
    0x1616161616161616161E1E1E1E1E1E1E1616161616161616161E1E1E1E1E1E1E,
    0x1616161616161616161616161616161616161616161616161616161616161616,
    0x1616161616161616161616161616161616161616161616161616161616161616,
    0x1616161616161616161616161616161616161616161616161616161616161616,
    0x1616161616161616161616161616161616161616161616161616161616161616,
    0x161616161616161616161616161616161616161E161616161616161616161616,
    0x1616161616161616161616161616161616161616161616161616161616161616,
    0x16161616161616161616161E1E1E1E1E1E1E1E1E1E1E1E1E1E1E1E1E1E1E1E1E,
    0x1E1E1E1E1E1E1E1E1E1E1E1E1E1E1E1E090909090909090909091E1E1E1E1E1E,
    0x0505050505050505050505050505050505050505050505050505050505050505,
    0x0505050505050505050505050505050505050505050505050505050505050505,
    0x0505050505050505050505050505050505050505050505050505050505050505,
    0x0505050505050505050505050505050505050505050505050505050505050505,
    0x0505050505050505050505050505050505050505050505050505050505050505,
    0x0505050505050505050505050505050505050505050505050505050505050505,
    0x0505050505050505050505050505050505050505050505050505050505050505,
    0x1E1E1E1E1E1E1E1E1E1E1E1E1E1E1E1E1E1E1E1E1E1E1E1E1E1E1E1E1E1E1E1E,
    0x0505050505050505050505050505050505050505050505050505050505050505,
    0x05050505050505050505050505050505050505050505050505051E1E1E1E1E1E,
    0x0505050505050505050505050505050505050505050505050505050505050505,
    0x0505050505050505050505050505050505050505050505050505050505050505,
    0x0505050505050505050505050505050505050505050505050505050505050505,
    0x0505050505050505050505050505050505050505050505050505050505050505,
    0x0505050505050505050505050505050505050505050505050505050505050505,
    0x0505050505050505050505050505050505050505050505050505050505050505,
    0x0505050505050505050505050505050505050505050505050505050505051E1E,
    0x0505050505050505050505050505050505050505050505050505050505050505,
    0x0505050505050505050505050505050505050505050505050505050505050505,
    0x0505050505050505050505050505050505050505050505050505050505050505,
    0x0505050505050505050505050505050505050505050505050505050505050505,
    0x0505050505050505050505050505050505050505050505050505050505050505,
    0x0505050505050505050505050505050505050505050505050505050505050505,
    0x0505050505050505050505050505050505050505050505050505050505050505,
    0x0505050505050505050505050505050505050505050505050505050505050505,
    0x0505050505050505050505050505050505050505050505050505050505050505,
    0x0505050505050505050505050505050505050505050505050505050505050505,
    0x0505050505050505050505050505050505050505050505050505050505050505,
    0x0505050505050505050505050505050505050505050505050505050505050505,
    0x05051E1E1E1E1E1E1E1E1E1E1E1E1E1E05050505050505050505050505050505,
    0x0505050505050505050505050505050505050505050505050505050505050505,
    0x0505050505050505050505050505050505050505050505050505050505050505,
    0x0505050505050505050505050505050505050505050505050505050505050505,
    0x0505050505050505050505050505050505050505050505050505050505050505,
    0x0505050505050505050505050505050505050505050505050505050505050505,
    0x0505050505050505050505050505050505050505050505050505050505050505,
    0x0505050505050505050505050505050505050505050505050505050505050505,
    0x0505050505050505050505050505050505050505050505050505050505050505,
    0x0505050505050505050505050505050505050505050505050505050505050505,
    0x051E1E1E1E1E1E1E1E1E1E1E1E1E1E1E05050505050505050505050505050505,
    0x0505050505050505050505050505050505050505050505050505050505050505,
    0x0505050505050505050505050505050505050505050505050505050505050505,
    0x0505050505050505050505050505050505050505050505050505050505051E1E,
    0x1E1E1E1E1E1E1E1E1E1E1E1E1E1E1E1E1E1E1E1E1E1E1E1E1E1E1E1E1E1E1E1E,
    0x1E1E1E1E1E1E1E1E1E1E1E1E1E1E1E1E1E1E1E1E1E1E1E1E1E1E1E1E1E1E1E1E,
    0x1E1E1E1E1E1E1E1E1E1E1E1E1E1E1E1E1E1E1E1E1E1E1E1E1E1E1E1E1E1E1E1E,
    0x1E1E1E1E1E1E1E1E1E1E1E1E1E1E1E1E1E1E1E1E1E1E1E1E1E1E1E1E1E1E1E1E,
    0x1E1E1E1E1E1E1E1E1E1E1E1E1E1E1E1E1E1E1E1E1E1E1E1E1E1E1E1E1E1E1E1E,
    0x0505050505050505050505050505050505050505050505050505050505051E1E,
    0x1E1E1E1E1E1E1E1E1E1E1E1E1E1E1E1E1E1E1E1E1E1E1E1E1E1E1E1E1E1E1E1E,
    0x1E1E1E1E1E1E1E1E1E1E1E1E1E1E1E1E1E1E1E1E1E1E1E1E1E1E1E1E1E1E1E1E,
    0x1E1E1E1E1E1E1E1E1E1E1E1E1E1E1E1E1E1E1E1E1E1E1E1E1E1E1E1E1E1E1E1E,
    0x1E1E1E1E1E1E1E1E1E1E1E1E1E1E1E1E1E1E1E1E1E1E1E1E1E1E1E1E1E1E1E1E,
    0x1E1E1E1E1E1E1E1E1E1E1E1E1E1E1E1E1E1E1E1E1E1E1E1E1E1E1E1E1E1E1E1E,
    0x1E1E1E1E1E1E1E1E1E1E1E1E1E1E1E1E1E1E1E1E1E1E1E1E1E1E1E1E1E1E1E1E,
    0x1E1E1E1E1E1E1E1E1E1E1E1E1E1E1E1E1E1E1E1E1E1E1E1E1E1E1E1E1E1E1E1E,
    0x0505050505050505050505050505050505050505050505050505050505050505,
    0x0505050505050505050505050505050505050505050505050505050505050505,
    0x05050505050505050505051E1E1E1E1E05050505050505050505050505050505,
    0x0505050505050505050505050505050505050505050505050505050505050505,
    0x0505050505050505050505050505050505050505050505050505050505050505,
    0x0505050505050505050505050505050505050505050505050505050505050505,
    0x0505050505050505050505050505050505050505050505050505050505050505,
    0x0505050505050505050505050505050505050505050505050505050505050505,
    0x0505050505050505050505050505050505050505050505050505050505050505,
    0x0505050505050505050505050505050505050505050505050505050505050505,
    0x0505050505050505050505050505050505050505050505050505050505050505,
    0x0505050505050505050505050505050505050505050505050505050505050505,
    0x0505050505050505050505050505050505050505050505050505050505050505,
    0x050505050505050505050505050505051E1E1E1E1E1E1E1E1E1E1E1E1E1E1E1E,
    0x1E1E1E1E1E1E1E1E1E1E1E1E1E1E1E1E1E1E1E1E1E1E1E1E1E1E1E1E1E1E1E1E,
    0x1E1E1E1E1E1E1E1E1E1E1E1E1E1E1E1E1E1E1E1E1E1E1E1E1E1E1E1E1E1E1E1E,
    0x1E1B1E1E1E1E1E1E1E1E1E1E1E1E1E1E1E1E1E1E1E1E1E1E1E1E1E1E1E1E1E1E,
    0x1B1B1B1B1B1B1B1B1B1B1B1B1B1B1B1B1B1B1B1B1B1B1B1B1B1B1B1B1B1B1B1B,
    0x1B1B1B1B1B1B1B1B1B1B1B1B1B1B1B1B1B1B1B1B1B1B1B1B1B1B1B1B1B1B1B1B,
    0x1B1B1B1B1B1B1B1B1B1B1B1B1B1B1B1B1B1B1B1B1B1B1B1B1B1B1B1B1B1B1B1B,
    0x1E1E1E1E1E1E1E1E1E1E1E1E1E1E1E1E1E1E1E1E1E1E1E1E1E1E1E1E1E1E1E1E,
    0x1E1E1E1E1E1E1E1E1E1E1E1E1E1E1E1E1E1E1E1E1E1E1E1E1E1E1E1E1E1E1E1E,
    0x1E1E1E1E1E1E1E1E1E1E1E1E1E1E1E1E1E1E1E1E1E1E1E1E1E1E1E1E1E1E1E1E,
    0x1E1E1E1E1E1E1E1E1E1E1E1E1E1E1E1E1E1E1E1E1E1E1E1E1E1E1E1E1E1E1E1E,
    0x0606060606060606060606060606060606060606060606060606060606060606,
    0x0606060606060606060606060606060606060606060606060606060606060606,
    0x0606060606060606060606060606060606060606060606060606060606060606,
    0x0606060606060606060606060606060606060606060606060606060606060606,
    0x0606060606060606060606060606060606060606060606060606060606060606,
    0x0606060606060606060606060606060606060606060606060606060606060606,
    0x0606060606060606060606060606060606060606060606060606060606060606,
    0x060606060606060606060606060606061E1E1E1E1E1E1E1E1E1E1E1E1E1E1E1E,
    0x1D1D1D1D1D1D1D1D1D1D1D1D1D1D1D1D1D1D1D1D1D1D1D1D1D1D1D1D1D1D1D1D,
    0x1D1D1D1D1D1D1D1D1D1D1D1D1D1D1D1D1D1D1D1D1D1D1D1D1D1D1D1D1D1D1D1D,
    0x1D1D1D1D1D1D1D1D1D1D1D1D1D1D1D1D1D1D1D1D1D1D1D1D1D1D1D1D1D1D1D1D,
    0x1D1D1D1D1D1D1D1D1D1D1D1D1D1D1D1D1D1D1D1D1D1D1D1D1D1D1D1D1D1D1D1D,
    0x1D1D1D1D1D1D1D1D1D1D1D1D1D1D1D1D1D1D1D1D1D1D1D1D1D1D1D1D1D1D1D1D,
    0x1D1D1D1D1D1D1D1D1D1D1D1D1D1D1D1D1D1D1D1D1D1D1D1D1D1D1D1D1D1D1D1D,
    0x1D1D1D1D1D1D1D1D1D1D1D1D1D1D1D1D1D1D1D1D1D1D1D1D1D1D1D1D1D1D1D1D,
    0x1D1D1D1D1D1D1D1D1D1D1D1D1D1D1D1D1D1D1D1D1D1D1D1D1D1D1D1D1D1D1E1E]

end UnicodeText.Data
