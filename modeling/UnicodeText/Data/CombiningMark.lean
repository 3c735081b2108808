import UnicodeText.Table.Block

namespace UnicodeText.Data

/-- One bit for each code point; the lowest bit of a byte is its first code. -/
def combiningMark : BlockTable 8 32 where
  span := 4352
  index := .ofRows 32 [
    0x0000000102030405060708090A0B0C0D0E00000F000000101112131415160000,
    0x170000000000000000000000181900001A000000000000000000000000000000,
    0x0000000000000000000000000000000000000000000000000000000000000000,
    0x0000000000000000000000000000000000000000000000000000000000000000,
    0x0000000000000000000000000000000000000000000000000000000000000000,
    0x0000000000001B001C1D1E1F0000000000000000000000000000000000000000,
    0x0000000000000000000000000000000000000000000000000000000000000000,
    0x0000000000000000000000000000000000000000000000000000002000002100,
    0x00222324000000000000250000262728292A2B2C2D2E2F303132330034353637,
    0x0000000000000000000000000000000000000000380000000000000000000000,
    0x0000000000000000000000000000000000000000000000000000000000000000,
    0x00000000000000000000393A0000003B00000000000000000000000000000000,
    0x0000000000000000000000000000000000000000000000000000000000000000,
    0x000000000000000000000000000000000000000000000000000000003C000000,
    0x0000000000000000000000000000003D003E3F00000000000000400000000000,
    0x413A420043000000444500000000000000000000000000000000000000000000,
    0x0000000000000000000000000000000000000000000000000000000000000000,
    0x0000000000000000000000000000000000000000000000000000000000000000,
    0x0000000000000000000000000000000000000000000000000000000000000000,
    0x0000000000000000000000000000000000000000000000000000000000000000,
    0x0000000000000000000000000000000000000000000000000000000000000000,
    0x0000000000000000000000000000000000000000000000000000000000000000,
    0x0000000000000000000000000000000000000000000000000000000000000000,
    0x0000000000000000000000000000000000000000000000000000000000000000,
    0x0000000000000000000000000000000000000000000000000000000000000000,
    0x0000000000000000000000000000000000000000000000000000000000000000,
    0x0000000000000000000000000000000000000000000000000000000000000000,
    0x0000000000000000000000000000000000000000000000000000000000000000,
    0x0000000000000000000000000000000000000000000000000000000000000000,
    0x0000000000000000000000000000000000000000000000000000000000000000,
    0x0000000000000000000000000000000000000000000000000000000000000000,
    0x0000000000000000000000000000000000000000000000000000000000000000,
    0x0000000000000000000000000000000000000000000000000000000000000000,
    0x0000000000000000000000000000000000000000000000000000000000000000,
    0x0000000000000000000000000000000000000000000000000000000000000000,
    0x0000000000000000000000000000000000000000000000000000000000000000,
    0x0000000000000000000000000000000000000000000000000000000000000000,
    0x0000000000000000000000000000000000000000000000000000000000000000,
    0x0000000000000000000000000000000000000000000000000000000000000000,
    0x0000000000000000000000000000000000000000000000000000000000000000,
    0x0000000000000000000000000000000000000000000000000000000000000000,
    0x0000000000000000000000000000000000000000000000000000000000000000,
    0x0000000000000000000000000000000000000000000000000000000000000000,
    0x0000000000000000000000000000000000000000000000000000000000000000,
    0x0000000000000000000000000000000000000000000000000000000000000000,
    0x0000000000000000000000000000000000000000000000000000000000000000,
    0x0000000000000000000000000000000000000000000000000000000000000000,
    0x0000000000000000000000000000000000000000000000000000000000000000,
    0x0000000000000000000000000000000000000000000000000000000000000000,
    0x0000000000000000000000000000000000000000000000000000000000000000,
    0x0000000000000000000000000000000000000000000000000000000000000000,
    0x0000000000000000000000000000000000000000000000000000000000000000,
    0x0000000000000000000000000000000000000000000000000000000000000000,
    0x0000000000000000000000000000000000000000000000000000000000000000,
    0x0000000000000000000000000000000000000000000000000000000000000000,
    0x0000000000000000000000000000000000000000000000000000000000000000,
    0x0000000000000000000000000000000000000000000000000000000000000000,
    0x0000000000000000000000000000000000000000000000000000000000000000,
    0x0000000000000000000000000000000000000000000000000000000000000000,
    0x0000000000000000000000000000000000000000000000000000000000000000,
    0x0000000000000000000000000000000000000000000000000000000000000000,
    0x0000000000000000000000000000000000000000000000000000000000000000,
    0x0000000000000000000000000000000000000000000000000000000000000000,
    0x0000000000000000000000000000000000000000000000000000000000000000,
    0x0000000000000000000000000000000000000000000000000000000000000000,
    0x0000000000000000000000000000000000000000000000000000000000000000,
    0x0000000000000000000000000000000000000000000000000000000000000000,
    0x0000000000000000000000000000000000000000000000000000000000000000,
    0x0000000000000000000000000000000000000000000000000000000000000000,
    0x0000000000000000000000000000000000000000000000000000000000000000,
    0x0000000000000000000000000000000000000000000000000000000000000000,
    0x0000000000000000000000000000000000000000000000000000000000000000,
    0x0000000000000000000000000000000000000000000000000000000000000000,
    0x0000000000000000000000000000000000000000000000000000000000000000,
    0x0000000000000000000000000000000000000000000000000000000000000000,
    0x0000000000000000000000000000000000000000000000000000000000000000,
    0x0000000000000000000000000000000000000000000000000000000000000000,
    0x0000000000000000000000000000000000000000000000000000000000000000,
    0x0000000000000000000000000000000000000000000000000000000000000000,
    0x0000000000000000000000000000000000000000000000000000000000000000,
    0x0000000000000000000000000000000000000000000000000000000000000000,
    0x0000000000000000000000000000000000000000000000000000000000000000,
    0x0000000000000000000000000000000000000000000000000000000000000000,
    0x0000000000000000000000000000000000000000000000000000000000000000,
    0x0000000000000000000000000000000000000000000000000000000000000000,
    0x0000000000000000000000000000000000000000000000000000000000000000,
    0x0000000000000000000000000000000000000000000000000000000000000000,
    0x0000000000000000000000000000000000000000000000000000000000000000,
    0x0000000000000000000000000000000000000000000000000000000000000000,
    0x0000000000000000000000000000000000000000000000000000000000000000,
    0x0000000000000000000000000000000000000000000000000000000000000000,
    0x0000000000000000000000000000000000000000000000000000000000000000,
    0x0000000000000000000000000000000000000000000000000000000000000000,
    0x0000000000000000000000000000000000000000000000000000000000000000,
    0x0000000000000000000000000000000000000000000000000000000000000000,
    0x0000000000000000000000000000000000000000000000000000000000000000,
    0x0000000000000000000000000000000000000000000000000000000000000000,
    0x0000000000000000000000000000000000000000000000000000000000000000,
    0x0000000000000000000000000000000000000000000000000000000000000000,
    0x0000000000000000000000000000000000000000000000000000000000000000,
    0x0000000000000000000000000000000000000000000000000000000000000000,
    0x0000000000000000000000000000000000000000000000000000000000000000,
    0x0000000000000000000000000000000000000000000000000000000000000000,
    0x0000000000000000000000000000000000000000000000000000000000000000,
    0x0000000000000000000000000000000000000000000000000000000000000000,
    0x0000000000000000000000000000000000000000000000000000000000000000,
    0x0000000000000000000000000000000000000000000000000000000000000000,
    0x0000000000000000000000000000000000000000000000000000000000000000,
    0x0000000000000000000000000000000000000000000000000000000000000000,
    0x0000000000000000000000000000000000000000000000000000000000000000,
    0x0000000000000000000000000000000000000000000000000000000000000000,
    0x0000000000000000000000000000000000000000000000000000000000000000,
    0x0046000000000000000000000000000000000000000000000000000000000000,
    0x0000000000000000000000000000000000000000000000000000000000000000,
    0x0000000000000000000000000000000000000000000000000000000000000000,
    0x0000000000000000000000000000000000000000000000000000000000000000,
    0x0000000000000000000000000000000000000000000000000000000000000000,
    0x0000000000000000000000000000000000000000000000000000000000000000,
    0x0000000000000000000000000000000000000000000000000000000000000000,
    0x0000000000000000000000000000000000000000000000000000000000000000,
    0x0000000000000000000000000000000000000000000000000000000000000000,
    0x0000000000000000000000000000000000000000000000000000000000000000,
    0x0000000000000000000000000000000000000000000000000000000000000000,
    0x0000000000000000000000000000000000000000000000000000000000000000,
    0x0000000000000000000000000000000000000000000000000000000000000000,
    0x0000000000000000000000000000000000000000000000000000000000000000,
    0x0000000000000000000000000000000000000000000000000000000000000000,
    0x0000000000000000000000000000000000000000000000000000000000000000,
    0x0000000000000000000000000000000000000000000000000000000000000000,
    0x0000000000000000000000000000000000000000000000000000000000000000,
    0x0000000000000000000000000000000000000000000000000000000000000000,
    0x0000000000000000000000000000000000000000000000000000000000000000,
    0x0000000000000000000000000000000000000000000000000000000000000000,
    0x0000000000000000000000000000000000000000000000000000000000000000,
    0x0000000000000000000000000000000000000000000000000000000000000000,
    0x0000000000000000000000000000000000000000000000000000000000000000]
  count := 71
  cells := .ofRows 32 [
    0x0000000000000000000000000000000000000000000000000000000000000000,
    0xFFFFFFFFFFFFFFFFFFFFFFFFFFFF000000000000000000000000000000000000,
    0x00000000000000000000000000000000F8030000000000000000000000000000,
    0x000000000000000000000000000000000000FEFFFFFFFFBFB600000000000000,
    0x0000FF070000000000F8FFFF0000010000000000000000000000C09F9F3D0000,
    0x000002000000FFFFFF0700000000000000000000C0FF01000000000000F80F20,
    0x0000C0FBEF3E00000000000E00000000000000FF0000000000FCFFFFFBFFFFFF,
    0x0F000000000000DCFFFFFE000C0000000E000000000000D09F3980000C000040,
    0x0E000000000000D087390200000023000E000000000000D0BF3B00000C0000FC,
    0x0E000000000000D09F39E0000C00000004000000000000C0C73D800000000000,
    0x1F000000000000D0DF3D60000C0000000E000000000000D0DF3D60000C000800,
    0x0F000000000000D8DF3D80000C0000000E0000000000000000845FFF00000C00,
    0x000000000000F207807F000000000000000000000000F21F007F000000000000,
    0x000000030000A0C2000000000000FEFFDFE0FFFEFFFFFF1F4000000000000000,
    0x0000000000F8FF7F0000C0C39D3F1E00FCBF003C000000000000000000000000,
    0x0000000000000000000000E00000000000000000000000000000000000000000,
    0x00003C0000001C0000000C0000000C00000000000000F0FFFFFF0F2000000000,
    0x00B8000000000000000000000000000060000000000200000000000000000000,
    0x00000000FF0FFF0F000000000000000000000000000000000000000000000000,
    0x0000800F000000000000E07FFFFFFF9F000000000000FFFFFF7F000000000000,
    0x1F0000000000F0FF1F00000000F80F0007000000FE3F000000000000C0FF0F00,
    0x00000000F0FFFF00000000000000000000000000000000000000F7FFFF219003,
    0x000000000000000000000000000000000000000000000000FFFFFFFFFFFFFFFF,
    0x0000000000000000000000000000000000000000000000000000FFFFFFFF0100,
    0x0000000000000000000000000000000000000000000000000000000000800300,
    0x00000000000000000000000000000080000000000000000000000000FFFFFFFF,
    0x0000000000FC0000000000000000000000000006000000000000000000000000,
    0x0000000000000000000000000080F73F000000C0000000000000000000000300,
    0x44080000F81000000000000000000000030000000000F0FF3F000000FFFF0380,
    0x00000000C03F000080FF0F00000000000F0000000000F8FF0100000020000000,
    0x0000000000FE7F0008300000000000380000000000009DC10200000000F86000,
    0x00000000000000000000000000000000000000000000000000000000F8370000,
    0x0000004000000000000000000000000000000000000000000000000000000000,
    0xFFFF0000FFFF0000000000000000000000000000000000000000000000000000,
    0x0000000000000000000000000000000000000000000000000000000000000020,
    0x0000000000000000000000000000000000000000000000000000000001000000,
    0x0000000000000000000000000000C00700000000000000000000000000000000,
    0x6EF0000000000087000000000000000000000000000000000000000060000000,
    0x00000000F0000000000000000000000000000000000000000000000000000000,
    0x00000000000000000000000000000000000000000018000000000000000000E0,
    0x0000000000000000C0FF0100000000003C000000000000000000000000000000,
    0x07000000000000FF7F00000000001980070000000000FF070400000000000000,
    0x0700000080FF1F006000000000000800070000000000F8FF01DE000000000000,
    0x0000000000F0FF400200000000000000000000000000000000000080FF070000,
    0x0F000000000000D89F398000CC1F1F0000000000000000000000000000000000,
    0x000000000000E0FF7F00004000000000000000000000FFFF0F00000000000000,
    0x000000000000000000000000000000000000000000803FFF0100003000000000,
    0x000000000000FFFF01000000000000000000000000F8FF000000000000000000,
    0x000000E0FF0F0000000000000000000000000000000000000000000000000000,
    0x0000000000F0FF07000000000000000000000000000000000000000000000000,
    0x000000000000BF790D0000000000000000000000000000000000FEFC11000000,
    0xFE0700000000F87B8000FE0F0000000000FCFF03000000000000000000000000,
    0x0000000000807FFF00000000000000000000FCFFFFFE7F000000000000000000,
    0x0000000000007EB4BF00000000000000007CFB00000000000000000000000000,
    0x0000000000000000000000000000000000000000000000000000000000007800,
    0x0B0000000000F0C7070000000000000000000000000000000000000000000000,
    0x000000000000000081FF3F000000000000000000000000000000000000000000,
    0x0000000000000000000000000000000000000000000000000000000000001F00,
    0x0000000000007F00000000000000000000000000000000000000000000000000,
    0x00000000000000000080FEFFFFFFFFFFFF800700000000000000000010000300,
    0x0000000000000000000000000000000000000060000000000000000000000000,
    0xFFFFFFFFFF3FFFFF7F0000000000000000000000000000000000000000000000,
    0x000000000000000000000000E0E307F8E70F0000003C00000000000000000000,
    0x00000000000000001C0000000000000000000000000000000000000000000000,
    0xFFFFFFFFFFFF7FF8FFFFFFFFFF1F2000100000F8FEFF00000000000000000000,
    0x7FFFFFF9DB070000000000000000000000800000000000000000000000000000,
    0x0000000000000000000000000000000000000000004000000000000000F00000,
    0x0000000000000000000000000000000000000000000000000000000000F00000,
    0x00000000000000000000000000000000000000000000000000007F0000000000,
    0x0000000000000000F00700000000000000000000000000000000000000000000,
    0xFFFFFFFFFFFFFFFFFFFFFFFFFFFFFFFFFFFFFFFFFFFFFFFFFFFFFFFFFFFF0000]

end UnicodeText.Data
