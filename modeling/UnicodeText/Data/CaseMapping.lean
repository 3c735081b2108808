import UnicodeText.Table.Block

namespace UnicodeText.Data

/-- The kind of the mapping in the first digit of a cell and its target in the other five. -/
def caseMapping : BlockTable 24 256 where
  span := 4352
  index := .ofRows 32 [
    0x00010203040506060606060606060606070606080606060606060606090A0B0C,
    0x060D06060E060606060606060F10060606060606060606060606060606060606,
    0x0606060606060606060606060606060606060606060606060606060606060606,
    0x0606060606060606060606060606060606060606060606060606060606060606,
    0x0606060606060606060606060606060606060606060606060606060606060606,
    0x0606060606061112060606130606060606060606060606060606060606060606,
    0x0606060606060606060606060606060606060606060606060606060606060606,
    0x0606060606060606060606060606060606060606060606060606060606060614,
    0x0606060615160606060606061706060606060606060606061806060606060606,
    0x0606060606060606060606060606060606060606060606060606060606060606,
    0x0606060606060606060606060606060606060606060606060606060606060606,
    0x0606060606060606060606060606190606060606060606060606060606060606,
    0x0606060606060606060606060606060606060606060606060606060606060606,
    0x0606060606060606060606060606060606060606060606060606060606060606,
    0x0606060606060606060606060606060606060606060606060606060606060606,
    0x0606060606060606061A06060606060606060606060606060606060606060606,
    0x0606060606060606060606060606060606060606060606060606060606060606,
    0x0606060606060606060606060606060606060606060606060606060606060606,
    0x0606060606060606060606060606060606060606060606060606060606060606,
    0x0606060606060606060606060606060606060606060606060606060606060606,
    0x0606060606060606060606060606060606060606060606060606060606060606,
    0x0606060606060606060606060606060606060606060606060606060606060606,
    0x0606060606060606060606060606060606060606060606060606060606060606,
    0x0606060606060606060606060606060606060606060606060606060606060606,
    0x0606060606060606060606060606060606060606060606060606060606060606,
    0x0606060606060606060606060606060606060606060606060606060606060606,
    0x0606060606060606060606060606060606060606060606060606060606060606,
    0x0606060606060606060606060606060606060606060606060606060606060606,
    0x0606060606060606060606060606060606060606060606060606060606060606,
    0x0606060606060606060606060606060606060606060606060606060606060606,
    0x0606060606060606060606060606060606060606060606060606060606060606,
    0x0606060606060606060606060606060606060606060606060606060606060606,
    0x0606060606060606060606060606060606060606060606060606060606060606,
    0x0606060606060606060606060606060606060606060606060606060606060606,
    0x0606060606060606060606060606060606060606060606060606060606060606,
    0x0606060606060606060606060606060606060606060606060606060606060606,
    0x0606060606060606060606060606060606060606060606060606060606060606,
    0x0606060606060606060606060606060606060606060606060606060606060606,
    0x0606060606060606060606060606060606060606060606060606060606060606,
    0x0606060606060606060606060606060606060606060606060606060606060606,
    0x0606060606060606060606060606060606060606060606060606060606060606,
    0x0606060606060606060606060606060606060606060606060606060606060606,
    0x0606060606060606060606060606060606060606060606060606060606060606,
    0x0606060606060606060606060606060606060606060606060606060606060606,
    0x0606060606060606060606060606060606060606060606060606060606060606,
    0x0606060606060606060606060606060606060606060606060606060606060606,
    0x0606060606060606060606060606060606060606060606060606060606060606,
    0x0606060606060606060606060606060606060606060606060606060606060606,
    0x0606060606060606060606060606060606060606060606060606060606060606,
    0x0606060606060606060606060606060606060606060606060606060606060606,
    0x0606060606060606060606060606060606060606060606060606060606060606,
    0x0606060606060606060606060606060606060606060606060606060606060606,
    0x0606060606060606060606060606060606060606060606060606060606060606,
    0x0606060606060606060606060606060606060606060606060606060606060606,
    0x0606060606060606060606060606060606060606060606060606060606060606,
    0x0606060606060606060606060606060606060606060606060606060606060606,
    0x0606060606060606060606060606060606060606060606060606060606060606,
    0x0606060606060606060606060606060606060606060606060606060606060606,
    0x0606060606060606060606060606060606060606060606060606060606060606,
    0x0606060606060606060606060606060606060606060606060606060606060606,
    0x0606060606060606060606060606060606060606060606060606060606060606,
    0x0606060606060606060606060606060606060606060606060606060606060606,
    0x0606060606060606060606060606060606060606060606060606060606060606,
    0x0606060606060606060606060606060606060606060606060606060606060606,
    0x0606060606060606060606060606060606060606060606060606060606060606,
    0x0606060606060606060606060606060606060606060606060606060606060606,
    0x0606060606060606060606060606060606060606060606060606060606060606,
    0x0606060606060606060606060606060606060606060606060606060606060606,
    0x0606060606060606060606060606060606060606060606060606060606060606,
    0x0606060606060606060606060606060606060606060606060606060606060606,
    0x0606060606060606060606060606060606060606060606060606060606060606,
    0x0606060606060606060606060606060606060606060606060606060606060606,
    0x0606060606060606060606060606060606060606060606060606060606060606,
    0x0606060606060606060606060606060606060606060606060606060606060606,
    0x0606060606060606060606060606060606060606060606060606060606060606,
    0x0606060606060606060606060606060606060606060606060606060606060606,
    0x0606060606060606060606060606060606060606060606060606060606060606,
    0x0606060606060606060606060606060606060606060606060606060606060606,
    0x0606060606060606060606060606060606060606060606060606060606060606,
    0x0606060606060606060606060606060606060606060606060606060606060606,
    0x0606060606060606060606060606060606060606060606060606060606060606,
    0x0606060606060606060606060606060606060606060606060606060606060606,
    0x0606060606060606060606060606060606060606060606060606060606060606,
    0x0606060606060606060606060606060606060606060606060606060606060606,
    0x0606060606060606060606060606060606060606060606060606060606060606,
    0x0606060606060606060606060606060606060606060606060606060606060606,
    0x0606060606060606060606060606060606060606060606060606060606060606,
    0x0606060606060606060606060606060606060606060606060606060606060606,
    0x0606060606060606060606060606060606060606060606060606060606060606,
    0x0606060606060606060606060606060606060606060606060606060606060606,
    0x0606060606060606060606060606060606060606060606060606060606060606,
    0x0606060606060606060606060606060606060606060606060606060606060606,
    0x0606060606060606060606060606060606060606060606060606060606060606,
    0x0606060606060606060606060606060606060606060606060606060606060606,
    0x0606060606060606060606060606060606060606060606060606060606060606,
    0x0606060606060606060606060606060606060606060606060606060606060606,
    0x0606060606060606060606060606060606060606060606060606060606060606,
    0x0606060606060606060606060606060606060606060606060606060606060606,
    0x0606060606060606060606060606060606060606060606060606060606060606,
    0x0606060606060606060606060606060606060606060606060606060606060606,
    0x0606060606060606060606060606060606060606060606060606060606060606,
    0x0606060606060606060606060606060606060606060606060606060606060606,
    0x0606060606060606060606060606060606060606060606060606060606060606,
    0x0606060606060606060606060606060606060606060606060606060606060606,
    0x0606060606060606060606060606060606060606060606060606060606060606,
    0x0606060606060606060606060606060606060606060606060606060606060606,
    0x0606060606060606060606060606060606060606060606060606060606060606,
    0x0606060606060606060606060606060606060606060606060606060606060606,
    0x0606060606060606060606060606060606060606060606060606060606060606,
    0x0606060606060606060606060606060606060606060606060606060606060606,
    0x0606060606060606060606060606060606060606060606060606060606060606,
    0x0606060606060606060606060606060606060606060606060606060606060606,
    0x0606060606060606060606060606060606060606060606060606060606060606,
    0x0606060606060606060606060606060606060606060606060606060606060606,
    0x0606060606060606060606060606060606060606060606060606060606060606,
    0x0606060606060606060606060606060606060606060606060606060606060606,
    0x0606060606060606060606060606060606060606060606060606060606060606,
    0x0606060606060606060606060606060606060606060606060606060606060606,
    0x0606060606060606060606060606060606060606060606060606060606060606,
    0x0606060606060606060606060606060606060606060606060606060606060606,
    0x0606060606060606060606060606060606060606060606060606060606060606,
    0x0606060606060606060606060606060606060606060606060606060606060606,
    0x0606060606060606060606060606060606060606060606060606060606060606,
    0x0606060606060606060606060606060606060606060606060606060606060606,
    0x0606060606060606060606060606060606060606060606060606060606060606,
    0x0606060606060606060606060606060606060606060606060606060606060606,
    0x0606060606060606060606060606060606060606060606060606060606060606,
    0x0606060606060606060606060606060606060606060606060606060606060606,
    0x0606060606060606060606060606060606060606060606060606060606060606,
    0x0606060606060606060606060606060606060606060606060606060606060606,
    0x0606060606060606060606060606060606060606060606060606060606060606,
    0x0606060606060606060606060606060606060606060606060606060606060606,
    0x0606060606060606060606060606060606060606060606060606060606060606,
    0x0606060606060606060606060606060606060606060606060606060606060606,
    0x0606060606060606060606060606060606060606060606060606060606060606,
    0x0606060606060606060606060606060606060606060606060606060606060606]
  count := 27
  cells := .ofRows 8 [
    0x000000_000000_000000_000000_000000_000000_000000_000000,
    0x000000_000000_000000_000000_000000_000000_000000_000000,
    0x000000_000000_000000_000000_000000_000000_000000_000000,
    0x000000_000000_000000_000000_000000_000000_000000_000000,
    0x000000_000000_000000_000000_000000_000000_000000_000000,
    0x000000_000000_000000_000000_000000_000000_000000_000000,
    0x000000_000000_000000_000000_000000_000000_000000_000000,
    0x000000_000000_000000_000000_000000_000000_000000_000000,
    0x000000_100061_100062_100063_100064_100065_100066_100067,
    0x100068_100069_10006A_10006B_10006C_10006D_10006E_10006F,
    0x100070_100071_100072_100073_100074_100075_100076_100077,
    0x100078_100079_10007A_000000_000000_000000_000000_000000,
    0x000000_200041_200042_200043_200044_200045_200046_200047,
    0x200048_200049_20004A_20004B_20004C_20004D_20004E_20004F,
    0x200050_200051_200052_200053_200054_200055_200056_200057,
    0x200058_200059_20005A_000000_000000_000000_000000_000000,
    0x000000_000000_000000_000000_000000_000000_000000_000000,
    0x000000_000000_000000_000000_000000_000000_000000_000000,
    0x000000_000000_000000_000000_000000_000000_000000_000000,
    0x000000_000000_000000_000000_000000_000000_000000_000000,
    0x000000_000000_000000_000000_000000_000000_000000_000000,
    0x000000_000000_000000_000000_000000_000000_000000_000000,
    0x000000_000000_000000_000000_000000_20039C_000000_000000,
    0x000000_000000_000000_000000_000000_000000_000000_000000,
    0x1000E0_1000E1_1000E2_1000E3_1000E4_1000E5_1000E6_1000E7,
    0x1000E8_1000E9_1000EA_1000EB_1000EC_1000ED_1000EE_1000EF,
    0x1000F0_1000F1_1000F2_1000F3_1000F4_1000F5_1000F6_000000,
    0x1000F8_1000F9_1000FA_1000FB_1000FC_1000FD_1000FE_000000,
    0x2000C0_2000C1_2000C2_2000C3_2000C4_2000C5_2000C6_2000C7,
    0x2000C8_2000C9_2000CA_2000CB_2000CC_2000CD_2000CE_2000CF,
    0x2000D0_2000D1_2000D2_2000D3_2000D4_2000D5_2000D6_000000,
    0x2000D8_2000D9_2000DA_2000DB_2000DC_2000DD_2000DE_200178,
    0x100101_200100_100103_200102_100105_200104_100107_200106,
    0x100109_200108_10010B_20010A_10010D_20010C_10010F_20010E,
    0x100111_200110_100113_200112_100115_200114_100117_200116,
    0x100119_200118_10011B_20011A_10011D_20011C_10011F_20011E,
    0x100121_200120_100123_200122_100125_200124_100127_200126,
    0x100129_200128_10012B_20012A_10012D_20012C_10012F_20012E,
    0x100069_200049_100133_200132_100135_200134_100137_200136,
    0x000000_10013A_200139_10013C_20013B_10013E_20013D_100140,
    0x20013F_100142_200141_100144_200143_100146_200145_100148,
    0x200147_000000_10014B_20014A_10014D_20014C_10014F_20014E,
    0x100151_200150_100153_200152_100155_200154_100157_200156,
    0x100159_200158_10015B_20015A_10015D_20015C_10015F_20015E,
    0x100161_200160_100163_200162_100165_200164_100167_200166,
    0x100169_200168_10016B_20016A_10016D_20016C_10016F_20016E,
    0x100171_200170_100173_200172_100175_200174_100177_200176,
    0x1000FF_10017A_200179_10017C_20017B_10017E_20017D_200053,
    0x200243_100253_100183_200182_100185_200184_100254_100188,
    0x200187_100256_100257_10018C_20018B_000000_1001DD_100259,
    0x10025B_100192_200191_100260_100263_2001F6_100269_100268,
    0x100199_200198_20023D_000000_10026F_100272_200220_100275,
    0x1001A1_2001A0_1001A3_2001A2_1001A5_2001A4_100280_1001A8,
    0x2001A7_100283_000000_000000_1001AD_2001AC_100288_1001B0,
    0x2001AF_10028A_10028B_1001B4_2001B3_1001B6_2001B5_100292,
    0x1001B9_2001B8_000000_000000_1001BD_2001BC_000000_2001F7,
    0x000000_000000_000000_000000_6001C5_4001C6_5001C4_6001C8,
    0x4001C9_5001C7_6001CB_4001CC_5001CA_1001CE_2001CD_1001D0,
    0x2001CF_1001D2_2001D1_1001D4_2001D3_1001D6_2001D5_1001D8,
    0x2001D7_1001DA_2001D9_1001DC_2001DB_20018E_1001DF_2001DE,
    0x1001E1_2001E0_1001E3_2001E2_1001E5_2001E4_1001E7_2001E6,
    0x1001E9_2001E8_1001EB_2001EA_1001ED_2001EC_1001EF_2001EE,
    0x000000_6001F2_4001F3_5001F1_1001F5_2001F4_100195_1001BF,
    0x1001F9_2001F8_1001FB_2001FA_1001FD_2001FC_1001FF_2001FE,
    0x100201_200200_100203_200202_100205_200204_100207_200206,
    0x100209_200208_10020B_20020A_10020D_20020C_10020F_20020E,
    0x100211_200210_100213_200212_100215_200214_100217_200216,
    0x100219_200218_10021B_20021A_10021D_20021C_10021F_20021E,
    0x10019E_000000_100223_200222_100225_200224_100227_200226,
    0x100229_200228_10022B_20022A_10022D_20022C_10022F_20022E,
    0x100231_200230_100233_200232_000000_000000_000000_000000,
    0x000000_000000_102C65_10023C_20023B_10019A_102C66_202C7E,
    0x202C7F_100242_200241_100180_100289_10028C_100247_200246,
    0x100249_200248_10024B_20024A_10024D_20024C_10024F_20024E,
    0x202C6F_202C6D_202C70_200181_200186_000000_200189_20018A,
    0x000000_20018F_000000_200190_20A7AB_000000_000000_000000,
    0x200193_20A7AC_000000_200194_000000_20A78D_20A7AA_000000,
    0x200197_200196_20A7AE_202C62_20A7AD_000000_000000_20019C,
    0x000000_202C6E_20019D_000000_000000_20019F_000000_000000,
    0x000000_000000_000000_000000_000000_202C64_000000_000000,
    0x2001A6_000000_20A7C5_2001A9_000000_000000_000000_20A7B1,
    0x2001AE_200244_2001B1_2001B2_200245_000000_000000_000000,
    0x000000_000000_2001B7_000000_000000_000000_000000_000000,
    0x000000_000000_000000_000000_000000_20A7B2_20A7B0_000000,
    0x000000_000000_000000_000000_000000_000000_000000_000000,
    0x000000_000000_000000_000000_000000_000000_000000_000000,
    0x000000_000000_000000_000000_000000_000000_000000_000000,
    0x000000_000000_000000_000000_000000_000000_000000_000000,
    0x000000_000000_000000_000000_000000_000000_000000_000000,
    0x000000_000000_000000_000000_000000_000000_000000_000000,
    0x000000_000000_000000_000000_000000_000000_000000_000000,
    0x000000_000000_000000_000000_000000_000000_000000_000000,
    0x000000_000000_000000_000000_000000_000000_000000_000000,
    0x000000_000000_000000_000000_000000_000000_000000_000000,
    0x000000_000000_000000_000000_000000_000000_000000_000000,
    0x000000_000000_000000_000000_000000_000000_000000_000000,
    0x000000_000000_000000_000000_000000_000000_000000_000000,
    0x000000_000000_000000_000000_000000_000000_000000_000000,
    0x000000_000000_000000_000000_000000_000000_000000_000000,
    0x000000_000000_000000_000000_000000_000000_000000_000000,
    0x000000_000000_000000_000000_000000_000000_000000_000000,
    0x000000_000000_000000_000000_000000_000000_000000_000000,
    0x000000_000000_000000_000000_000000_000000_000000_000000,
    0x000000_000000_000000_000000_000000_000000_000000_000000,
    0x000000_000000_000000_000000_000000_200399_000000_000000,
    0x000000_000000_000000_000000_000000_000000_000000_000000,
    0x000000_000000_000000_000000_000000_000000_000000_000000,
    0x000000_000000_000000_000000_000000_000000_000000_000000,
    0x000000_000000_000000_000000_000000_000000_000000_000000,
    0x000000_000000_000000_000000_000000_000000_000000_000000,
    0x100371_200370_100373_200372_000000_000000_100377_200376,
    0x000000_000000_000000_2003FD_2003FE_2003FF_000000_1003F3,
    0x000000_000000_000000_000000_000000_000000_1003AC_000000,
    0x1003AD_1003AE_1003AF_000000_1003CC_000000_1003CD_1003CE,
    0x000000_1003B1_1003B2_1003B3_1003B4_1003B5_1003B6_1003B7,
    0x1003B8_1003B9_1003BA_1003BB_1003BC_1003BD_1003BE_1003BF,
    0x1003C0_1003C1_000000_1003C3_1003C4_1003C5_1003C6_1003C7,
    0x1003C8_1003C9_1003CA_1003CB_200386_200388_200389_20038A,
    0x000000_200391_200392_200393_200394_200395_200396_200397,
    0x200398_200399_20039A_20039B_20039C_20039D_20039E_20039F,
    0x2003A0_2003A1_2003A3_2003A3_2003A4_2003A5_2003A6_2003A7,
    0x2003A8_2003A9_2003AA_2003AB_20038C_20038E_20038F_1003D7,
    0x200392_200398_000000_000000_000000_2003A6_2003A0_2003CF,
    0x1003D9_2003D8_1003DB_2003DA_1003DD_2003DC_1003DF_2003DE,
    0x1003E1_2003E0_1003E3_2003E2_1003E5_2003E4_1003E7_2003E6,
    0x1003E9_2003E8_1003EB_2003EA_1003ED_2003EC_1003EF_2003EE,
    0x20039A_2003A1_2003F9_20037F_1003B8_200395_000000_1003F8,
    0x2003F7_1003F2_1003FB_2003FA_000000_10037B_10037C_10037D,
    0x100450_100451_100452_100453_100454_100455_100456_100457,
    0x100458_100459_10045A_10045B_10045C_10045D_10045E_10045F,
    0x100430_100431_100432_100433_100434_100435_100436_100437,
    0x100438_100439_10043A_10043B_10043C_10043D_10043E_10043F,
    0x100440_100441_100442_100443_100444_100445_100446_100447,
    0x100448_100449_10044A_10044B_10044C_10044D_10044E_10044F,
    0x200410_200411_200412_200413_200414_200415_200416_200417,
    0x200418_200419_20041A_20041B_20041C_20041D_20041E_20041F,
    0x200420_200421_200422_200423_200424_200425_200426_200427,
    0x200428_200429_20042A_20042B_20042C_20042D_20042E_20042F,
    0x200400_200401_200402_200403_200404_200405_200406_200407,
    0x200408_200409_20040A_20040B_20040C_20040D_20040E_20040F,
    0x100461_200460_100463_200462_100465_200464_100467_200466,
    0x100469_200468_10046B_20046A_10046D_20046C_10046F_20046E,
    0x100471_200470_100473_200472_100475_200474_100477_200476,
    0x100479_200478_10047B_20047A_10047D_20047C_10047F_20047E,
    0x100481_200480_000000_000000_000000_000000_000000_000000,
    0x000000_000000_10048B_20048A_10048D_20048C_10048F_20048E,
    0x100491_200490_100493_200492_100495_200494_100497_200496,
    0x100499_200498_10049B_20049A_10049D_20049C_10049F_20049E,
    0x1004A1_2004A0_1004A3_2004A2_1004A5_2004A4_1004A7_2004A6,
    0x1004A9_2004A8_1004AB_2004AA_1004AD_2004AC_1004AF_2004AE,
    0x1004B1_2004B0_1004B3_2004B2_1004B5_2004B4_1004B7_2004B6,
    0x1004B9_2004B8_1004BB_2004BA_1004BD_2004BC_1004BF_2004BE,
    0x1004CF_1004C2_2004C1_1004C4_2004C3_1004C6_2004C5_1004C8,
    0x2004C7_1004CA_2004C9_1004CC_2004CB_1004CE_2004CD_2004C0,
    0x1004D1_2004D0_1004D3_2004D2_1004D5_2004D4_1004D7_2004D6,
    0x1004D9_2004D8_1004DB_2004DA_1004DD_2004DC_1004DF_2004DE,
    0x1004E1_2004E0_1004E3_2004E2_1004E5_2004E4_1004E7_2004E6,
    0x1004E9_2004E8_1004EB_2004EA_1004ED_2004EC_1004EF_2004EE,
    0x1004F1_2004F0_1004F3_2004F2_1004F5_2004F4_1004F7_2004F6,
    0x1004F9_2004F8_1004FB_2004FA_1004FD_2004FC_1004FF_2004FE,
    0x100501_200500_100503_200502_100505_200504_100507_200506,
    0x100509_200508_10050B_20050A_10050D_20050C_10050F_20050E,
    0x100511_200510_100513_200512_100515_200514_100517_200516,
    0x100519_200518_10051B_20051A_10051D_20051C_10051F_20051E,
    0x100521_200520_100523_200522_100525_200524_100527_200526,
    0x100529_200528_10052B_20052A_10052D_20052C_10052F_20052E,
    0x000000_100561_100562_100563_100564_100565_100566_100567,
    0x100568_100569_10056A_10056B_10056C_10056D_10056E_10056F,
    0x100570_100571_100572_100573_100574_100575_100576_100577,
    0x100578_100579_10057A_10057B_10057C_10057D_10057E_10057F,
    0x100580_100581_100582_100583_100584_100585_100586_000000,
    0x000000_000000_000000_000000_000000_000000_000000_000000,
    0x000000_200531_200532_200533_200534_200535_200536_200537,
    0x200538_200539_20053A_20053B_20053C_20053D_20053E_20053F,
    0x200540_200541_200542_200543_200544_200545_200546_200547,
    0x200548_200549_20054A_20054B_20054C_20054D_20054E_20054F,
    0x200550_200551_200552_200553_200554_200555_200556_000000,
    0x000000_000000_000000_000000_000000_000000_000000_000000,
    0x000000_000000_000000_000000_000000_000000_000000_000000,
    0x000000_000000_000000_000000_000000_000000_000000_000000,
    0x000000_000000_000000_000000_000000_000000_000000_000000,
    0x000000_000000_000000_000000_000000_000000_000000_000000,
    0x000000_000000_000000_000000_000000_000000_000000_000000,
    0x000000_000000_000000_000000_000000_000000_000000_000000,
    0x000000_000000_000000_000000_000000_000000_000000_000000,
    0x000000_000000_000000_000000_000000_000000_000000_000000,
    0x000000_000000_000000_000000_000000_000000_000000_000000,
    0x000000_000000_000000_000000_000000_000000_000000_000000,
    0x000000_000000_000000_000000_000000_000000_000000_000000,
    0x000000_000000_000000_000000_000000_000000_000000_000000,
    0x000000_000000_000000_000000_000000_000000_000000_000000,
    0x000000_000000_000000_000000_000000_000000_000000_000000,
    0x000000_000000_000000_000000_000000_000000_000000_000000,
    0x000000_000000_000000_000000_000000_000000_000000_000000,
    0x000000_000000_000000_000000_000000_000000_000000_000000,
    0x000000_000000_000000_000000_000000_000000_000000_000000,
    0x000000_000000_000000_000000_000000_000000_000000_000000,
    0x000000_000000_000000_000000_000000_000000_000000_000000,
    0x000000_000000_000000_000000_000000_000000_000000_000000,
    0x000000_000000_000000_000000_000000_000000_000000_000000,
    0x000000_000000_000000_000000_000000_000000_000000_000000,
    0x000000_000000_000000_000000_000000_000000_000000_000000,
    0x000000_000000_000000_000000_000000_000000_000000_000000,
    0x000000_000000_000000_000000_000000_000000_000000_000000,
    0x000000_000000_000000_000000_000000_000000_000000_000000,
    0x000000_000000_000000_000000_000000_000000_000000_000000,
    0x000000_000000_000000_000000_000000_000000_000000_000000,
    0x000000_000000_000000_000000_000000_000000_000000_000000,
    0x000000_000000_000000_000000_000000_000000_000000_000000,
    0x000000_000000_000000_000000_000000_000000_000000_000000,
    0x000000_000000_000000_000000_000000_000000_000000_000000,
    0x000000_000000_000000_000000_000000_000000_000000_000000,
    0x000000_000000_000000_000000_000000_000000_000000_000000,
    0x000000_000000_000000_000000_000000_000000_000000_000000,
    0x000000_000000_000000_000000_000000_000000_000000_000000,
    0x000000_000000_000000_000000_000000_000000_000000_000000,
    0x000000_000000_000000_000000_000000_000000_000000_000000,
    0x000000_000000_000000_000000_000000_000000_000000_000000,
    0x000000_000000_000000_000000_000000_000000_000000_000000,
    0x000000_000000_000000_000000_000000_000000_000000_000000,
    0x000000_000000_000000_000000_000000_000000_000000_000000,
    0x000000_000000_000000_000000_000000_000000_000000_000000,
    0x000000_000000_000000_000000_000000_000000_000000_000000,
    0x000000_000000_000000_000000_000000_000000_000000_000000,
    0x000000_000000_000000_000000_000000_000000_000000_000000,
    0x000000_000000_000000_000000_000000_000000_000000_000000,
    0x000000_000000_000000_000000_000000_000000_000000_000000,
    0x000000_000000_000000_000000_000000_000000_000000_000000,
    0x000000_000000_000000_000000_000000_000000_000000_000000,
    0x000000_000000_000000_000000_000000_000000_000000_000000,
    0x000000_000000_000000_000000_000000_000000_000000_000000,
    0x000000_000000_000000_000000_000000_000000_000000_000000,
    0x000000_000000_000000_000000_000000_000000_000000_000000,
    0x000000_000000_000000_000000_000000_000000_000000_000000,
    0x000000_000000_000000_000000_000000_000000_000000_000000,
    0x000000_000000_000000_000000_000000_000000_000000_000000,
    0x000000_000000_000000_000000_000000_000000_000000_000000,
    0x000000_000000_000000_000000_000000_000000_000000_000000,
    0x000000_000000_000000_000000_000000_000000_000000_000000,
    0x000000_000000_000000_000000_000000_000000_000000_000000,
    0x000000_000000_000000_000000_000000_000000_000000_000000,
    0x000000_000000_000000_000000_000000_000000_000000_000000,
    0x000000_000000_000000_000000_000000_000000_000000_000000,
    0x000000_000000_000000_000000_000000_000000_000000_000000,
    0x102D00_102D01_102D02_102D03_102D04_102D05_102D06_102D07,
    0x102D08_102D09_102D0A_102D0B_102D0C_102D0D_102D0E_102D0F,
    0x102D10_102D11_102D12_102D13_102D14_102D15_102D16_102D17,
    0x102D18_102D19_102D1A_102D1B_102D1C_102D1D_102D1E_102D1F,
    0x102D20_102D21_102D22_102D23_102D24_102D25_000000_102D27,
    0x000000_000000_000000_000000_000000_102D2D_000000_000000,
    0x301C90_301C91_301C92_301C93_301C94_301C95_301C96_301C97,
    0x301C98_301C99_301C9A_301C9B_301C9C_301C9D_301C9E_301C9F,
    0x301CA0_301CA1_301CA2_301CA3_301CA4_301CA5_301CA6_301CA7,
    0x301CA8_301CA9_301CAA_301CAB_301CAC_301CAD_301CAE_301CAF,
    0x301CB0_301CB1_301CB2_301CB3_301CB4_301CB5_301CB6_301CB7,
    0x301CB8_301CB9_301CBA_000000_000000_301CBD_301CBE_301CBF,
    0x000000_000000_000000_000000_000000_000000_000000_000000,
    0x000000_000000_000000_000000_000000_000000_000000_000000,
    0x000000_000000_000000_000000_000000_000000_000000_000000,
    0x000000_000000_000000_000000_000000_000000_000000_000000,
    0x000000_000000_000000_000000_000000_000000_000000_000000,
    0x000000_000000_000000_000000_000000_000000_000000_000000,
    0x000000_000000_000000_000000_000000_000000_000000_000000,
    0x000000_000000_000000_000000_000000_000000_000000_000000,
    0x000000_000000_000000_000000_000000_000000_000000_000000,
    0x000000_000000_000000_000000_000000_000000_000000_000000,
    0x000000_000000_000000_000000_000000_000000_000000_000000,
    0x000000_000000_000000_000000_000000_000000_000000_000000,
    0x000000_000000_000000_000000_000000_000000_000000_000000,
    0x000000_000000_000000_000000_000000_000000_000000_000000,
    0x000000_000000_000000_000000_000000_000000_000000_000000,
    0x000000_000000_000000_000000_000000_000000_000000_000000,
    0x000000_000000_000000_000000_000000_000000_000000_000000,
    0x000000_000000_000000_000000_000000_000000_000000_000000,
    0x000000_000000_000000_000000_000000_000000_000000_000000,
    0x000000_000000_000000_000000_000000_000000_000000_000000,
    0x10AB70_10AB71_10AB72_10AB73_10AB74_10AB75_10AB76_10AB77,
    0x10AB78_10AB79_10AB7A_10AB7B_10AB7C_10AB7D_10AB7E_10AB7F,
    0x10AB80_10AB81_10AB82_10AB83_10AB84_10AB85_10AB86_10AB87,
    0x10AB88_10AB89_10AB8A_10AB8B_10AB8C_10AB8D_10AB8E_10AB8F,
    0x10AB90_10AB91_10AB92_10AB93_10AB94_10AB95_10AB96_10AB97,
    0x10AB98_10AB99_10AB9A_10AB9B_10AB9C_10AB9D_10AB9E_10AB9F,
    0x10ABA0_10ABA1_10ABA2_10ABA3_10ABA4_10ABA5_10ABA6_10ABA7,
    0x10ABA8_10ABA9_10ABAA_10ABAB_10ABAC_10ABAD_10ABAE_10ABAF,
    0x10ABB0_10ABB1_10ABB2_10ABB3_10ABB4_10ABB5_10ABB6_10ABB7,
    0x10ABB8_10ABB9_10ABBA_10ABBB_10ABBC_10ABBD_10ABBE_10ABBF,
    0x1013F8_1013F9_1013FA_1013FB_1013FC_1013FD_000000_000000,
    0x2013F0_2013F1_2013F2_2013F3_2013F4_2013F5_000000_000000,
    0x000000_000000_000000_000000_000000_000000_000000_000000,
    0x000000_000000_000000_000000_000000_000000_000000_000000,
    0x000000_000000_000000_000000_000000_000000_000000_000000,
    0x000000_000000_000000_000000_000000_000000_000000_000000,
    0x000000_000000_000000_000000_000000_000000_000000_000000,
    0x000000_000000_000000_000000_000000_000000_000000_000000,
    0x000000_000000_000000_000000_000000_000000_000000_000000,
    0x000000_000000_000000_000000_000000_000000_000000_000000,
    0x000000_000000_000000_000000_000000_000000_000000_000000,
    0x000000_000000_000000_000000_000000_000000_000000_000000,
    0x000000_000000_000000_000000_000000_000000_000000_000000,
    0x000000_000000_000000_000000_000000_000000_000000_000000,
    0x000000_000000_000000_000000_000000_000000_000000_000000,
    0x000000_000000_000000_000000_000000_000000_000000_000000,
    0x000000_000000_000000_000000_000000_000000_000000_000000,
    0x000000_000000_000000_000000_000000_000000_000000_000000,
    0x200412_200414_20041E_200421_200422_200422_20042A_200462,
    0x20A64A_000000_000000_000000_000000_000000_000000_000000,
    0x1010D0_1010D1_1010D2_1010D3_1010D4_1010D5_1010D6_1010D7,
    0x1010D8_1010D9_1010DA_1010DB_1010DC_1010DD_1010DE_1010DF,
    0x1010E0_1010E1_1010E2_1010E3_1010E4_1010E5_1010E6_1010E7,
    0x1010E8_1010E9_1010EA_1010EB_1010EC_1010ED_1010EE_1010EF,
    0x1010F0_1010F1_1010F2_1010F3_1010F4_1010F5_1010F6_1010F7,
    0x1010F8_1010F9_1010FA_000000_000000_1010FD_1010FE_1010FF,
    0x000000_000000_000000_000000_000000_000000_000000_000000,
    0x000000_000000_000000_000000_000000_000000_000000_000000,
    0x000000_000000_000000_000000_000000_000000_000000_000000,
    0x000000_000000_000000_000000_000000_000000_000000_000000,
    0x000000_000000_000000_000000_000000_000000_000000_000000,
    0x000000_000000_000000_000000_000000_000000_000000_000000,
    0x000000_000000_000000_000000_000000_000000_000000_000000,
    0x000000_000000_000000_000000_000000_000000_000000_000000,
    0x000000_000000_000000_000000_000000_000000_000000_000000,
    0x000000_000000_000000_000000_000000_000000_000000_000000,
    0x000000_000000_000000_000000_000000_000000_000000_000000,
    0x000000_000000_000000_000000_000000_000000_000000_000000,
    0x000000_000000_000000_000000_000000_000000_000000_000000,
    0x000000_000000_000000_000000_000000_000000_000000_000000,
    0x000000_000000_000000_000000_000000_000000_000000_000000,
    0x000000_000000_000000_000000_000000_000000_000000_000000,
    0x000000_000000_000000_000000_000000_000000_000000_000000,
    0x000000_000000_000000_000000_000000_000000_000000_000000,
    0x000000_000000_000000_000000_000000_000000_000000_000000,
    0x000000_000000_000000_000000_000000_000000_000000_000000,
    0x000000_000000_000000_000000_000000_000000_000000_000000,
    0x000000_000000_000000_000000_000000_000000_000000_000000,
    0x000000_000000_000000_000000_000000_000000_000000_000000,
    0x000000_20A77D_000000_000000_000000_202C63_000000_000000,
    0x000000_000000_000000_000000_000000_000000_000000_000000,
    0x000000_000000_000000_000000_000000_000000_20A7C6_000000,
    0x000000_000000_000000_000000_000000_000000_000000_000000,
    0x000000_000000_000000_000000_000000_000000_000000_000000,
    0x000000_000000_000000_000000_000000_000000_000000_000000,
    0x000000_000000_000000_000000_000000_000000_000000_000000,
    0x000000_000000_000000_000000_000000_000000_000000_000000,
    0x000000_000000_000000_000000_000000_000000_000000_000000,
    0x000000_000000_000000_000000_000000_000000_000000_000000,
    0x000000_000000_000000_000000_000000_000000_000000_000000,
    0x000000_000000_000000_000000_000000_000000_000000_000000,
    0x000000_000000_000000_000000_000000_000000_000000_000000,
    0x000000_000000_000000_000000_000000_000000_000000_000000,
    0x000000_000000_000000_000000_000000_000000_000000_000000,
    0x000000_000000_000000_000000_000000_000000_000000_000000,
    0x000000_000000_000000_000000_000000_000000_000000_000000,
    0x101E01_201E00_101E03_201E02_101E05_201E04_101E07_201E06,
    0x101E09_201E08_101E0B_201E0A_101E0D_201E0C_101E0F_201E0E,
    0x101E11_201E10_101E13_201E12_101E15_201E14_101E17_201E16,
    0x101E19_201E18_101E1B_201E1A_101E1D_201E1C_101E1F_201E1E,
    0x101E21_201E20_101E23_201E22_101E25_201E24_101E27_201E26,
    0x101E29_201E28_101E2B_201E2A_101E2D_201E2C_101E2F_201E2E,
    0x101E31_201E30_101E33_201E32_101E35_201E34_101E37_201E36,
    0x101E39_201E38_101E3B_201E3A_101E3D_201E3C_101E3F_201E3E,
    0x101E41_201E40_101E43_201E42_101E45_201E44_101E47_201E46,
    0x101E49_201E48_101E4B_201E4A_101E4D_201E4C_101E4F_201E4E,
    0x101E51_201E50_101E53_201E52_101E55_201E54_101E57_201E56,
    0x101E59_201E58_101E5B_201E5A_101E5D_201E5C_101E5F_201E5E,
    0x101E61_201E60_101E63_201E62_101E65_201E64_101E67_201E66,
    0x101E69_201E68_101E6B_201E6A_101E6D_201E6C_101E6F_201E6E,
    0x101E71_201E70_101E73_201E72_101E75_201E74_101E77_201E76,
    0x101E79_201E78_101E7B_201E7A_101E7D_201E7C_101E7F_201E7E,
    0x101E81_201E80_101E83_201E82_101E85_201E84_101E87_201E86,
    0x101E89_201E88_101E8B_201E8A_101E8D_201E8C_101E8F_201E8E,
    0x101E91_201E90_101E93_201E92_101E95_201E94_000000_000000,
    0x000000_000000_000000_201E60_000000_000000_1000DF_000000,
    0x101EA1_201EA0_101EA3_201EA2_101EA5_201EA4_101EA7_201EA6,
    0x101EA9_201EA8_101EAB_201EAA_101EAD_201EAC_101EAF_201EAE,
    0x101EB1_201EB0_101EB3_201EB2_101EB5_201EB4_101EB7_201EB6,
    0x101EB9_201EB8_101EBB_201EBA_101EBD_201EBC_101EBF_201EBE,
    0x101EC1_201EC0_101EC3_201EC2_101EC5_201EC4_101EC7_201EC6,
    0x101EC9_201EC8_101ECB_201ECA_101ECD_201ECC_101ECF_201ECE,
    0x101ED1_201ED0_101ED3_201ED2_101ED5_201ED4_101ED7_201ED6,
    0x101ED9_201ED8_101EDB_201EDA_101EDD_201EDC_101EDF_201EDE,
    0x101EE1_201EE0_101EE3_201EE2_101EE5_201EE4_101EE7_201EE6,
    0x101EE9_201EE8_101EEB_201EEA_101EED_201EEC_101EEF_201EEE,
    0x101EF1_201EF0_101EF3_201EF2_101EF5_201EF4_101EF7_201EF6,
    0x101EF9_201EF8_101EFB_201EFA_101EFD_201EFC_101EFF_201EFE,
    0x201F08_201F09_201F0A_201F0B_201F0C_201F0D_201F0E_201F0F,
    0x101F00_101F01_101F02_101F03_101F04_101F05_101F06_101F07,
    0x201F18_201F19_201F1A_201F1B_201F1C_201F1D_000000_000000,
    0x101F10_101F11_101F12_101F13_101F14_101F15_000000_000000,
    0x201F28_201F29_201F2A_201F2B_201F2C_201F2D_201F2E_201F2F,
    0x101F20_101F21_101F22_101F23_101F24_101F25_101F26_101F27,
    0x201F38_201F39_201F3A_201F3B_201F3C_201F3D_201F3E_201F3F,
    0x101F30_101F31_101F32_101F33_101F34_101F35_101F36_101F37,
    0x201F48_201F49_201F4A_201F4B_201F4C_201F4D_000000_000000,
    0x101F40_101F41_101F42_101F43_101F44_101F45_000000_000000,
    0x000000_201F59_000000_201F5B_000000_201F5D_000000_201F5F,
    0x000000_101F51_000000_101F53_000000_101F55_000000_101F57,
    0x201F68_201F69_201F6A_201F6B_201F6C_201F6D_201F6E_201F6F,
    0x101F60_101F61_101F62_101F63_101F64_101F65_101F66_101F67,
    0x201FBA_201FBB_201FC8_201FC9_201FCA_201FCB_201FDA_201FDB,
    0x201FF8_201FF9_201FEA_201FEB_201FFA_201FFB_000000_000000,
    0x201F88_201F89_201F8A_201F8B_201F8C_201F8D_201F8E_201F8F,
    0x101F80_101F81_101F82_101F83_101F84_101F85_101F86_101F87,
    0x201F98_201F99_201F9A_201F9B_201F9C_201F9D_201F9E_201F9F,
    0x101F90_101F91_101F92_101F93_101F94_101F95_101F96_101F97,
    0x201FA8_201FA9_201FAA_201FAB_201FAC_201FAD_201FAE_201FAF,
    0x101FA0_101FA1_101FA2_101FA3_101FA4_101FA5_101FA6_101FA7,
    0x201FB8_201FB9_000000_201FBC_000000_000000_000000_000000,
    0x101FB0_101FB1_101F70_101F71_101FB3_000000_200399_000000,
    0x000000_000000_000000_201FCC_000000_000000_000000_000000,
    0x101F72_101F73_101F74_101F75_101FC3_000000_000000_000000,
    0x201FD8_201FD9_000000_000000_000000_000000_000000_000000,
    0x101FD0_101FD1_101F76_101F77_000000_000000_000000_000000,
    0x201FE8_201FE9_000000_000000_000000_201FEC_000000_000000,
    0x101FE0_101FE1_101F7A_101F7B_101FE5_000000_000000_000000,
    0x000000_000000_000000_201FFC_000000_000000_000000_000000,
    0x101F78_101F79_101F7C_101F7D_101FF3_000000_000000_000000,
    0x000000_000000_000000_000000_000000_000000_000000_000000,
    0x000000_000000_000000_000000_000000_000000_000000_000000,
    0x000000_000000_000000_000000_000000_000000_000000_000000,
    0x000000_000000_000000_000000_000000_000000_000000_000000,
    0x000000_000000_000000_000000_000000_000000_1003C9_000000,
    0x000000_000000_10006B_1000E5_000000_000000_000000_000000,
    0x000000_000000_10214E_000000_000000_000000_000000_000000,
    0x000000_000000_000000_000000_000000_000000_000000_000000,
    0x000000_000000_000000_000000_000000_000000_000000_000000,
    0x000000_000000_000000_000000_000000_000000_202132_000000,
    0x000000_000000_000000_000000_000000_000000_000000_000000,
    0x000000_000000_000000_000000_000000_000000_000000_000000,
    0x102170_102171_102172_102173_102174_102175_102176_102177,
    0x102178_102179_10217A_10217B_10217C_10217D_10217E_10217F,
    0x202160_202161_202162_202163_202164_202165_202166_202167,
    0x202168_202169_20216A_20216B_20216C_20216D_20216E_20216F,
    0x000000_000000_000000_102184_202183_000000_000000_000000,
    0x000000_000000_000000_000000_000000_000000_000000_000000,
    0x000000_000000_000000_000000_000000_000000_000000_000000,
    0x000000_000000_000000_000000_000000_000000_000000_000000,
    0x000000_000000_000000_000000_000000_000000_000000_000000,
    0x000000_000000_000000_000000_000000_000000_000000_000000,
    0x000000_000000_000000_000000_000000_000000_000000_000000,
    0x000000_000000_000000_000000_000000_000000_000000_000000,
    0x000000_000000_000000_000000_000000_000000_000000_000000,
    0x000000_000000_000000_000000_000000_000000_000000_000000,
    0x000000_000000_000000_000000_000000_000000_000000_000000,
    0x000000_000000_000000_000000_000000_000000_000000_000000,
    0x000000_000000_000000_000000_000000_000000_000000_000000,
    0x000000_000000_000000_000000_000000_000000_000000_000000,
    0x000000_000000_000000_000000_000000_000000_000000_000000,
    0x000000_000000_000000_000000_000000_000000_000000_000000,
    0x000000_000000_000000_000000_000000_000000_000000_000000,
    0x000000_000000_000000_000000_000000_000000_000000_000000,
    0x000000_000000_000000_000000_000000_000000_000000_000000,
    0x000000_000000_000000_000000_000000_000000_000000_000000,
    0x000000_000000_000000_000000_000000_000000_000000_000000,
    0x000000_000000_000000_000000_000000_000000_000000_000000,
    0x000000_000000_000000_000000_000000_000000_000000_000000,
    0x000000_000000_000000_000000_000000_000000_000000_000000,
    0x000000_000000_000000_000000_000000_000000_000000_000000,
    0x000000_000000_000000_000000_000000_000000_000000_000000,
    0x000000_000000_000000_000000_000000_000000_000000_000000,
    0x000000_000000_000000_000000_000000_000000_000000_000000,
    0x000000_000000_000000_000000_000000_000000_000000_000000,
    0x000000_000000_000000_000000_000000_000000_000000_000000,
    0x000000_000000_000000_000000_000000_000000_000000_000000,
    0x000000_000000_000000_000000_000000_000000_000000_000000,
    0x000000_000000_000000_000000_000000_000000_000000_000000,
    0x000000_000000_000000_000000_000000_000000_000000_000000,
    0x000000_000000_000000_000000_000000_000000_000000_000000,
    0x000000_000000_000000_000000_000000_000000_000000_000000,
    0x000000_000000_000000_000000_000000_000000_000000_000000,
    0x000000_000000_000000_000000_000000_000000_000000_000000,
    0x000000_000000_000000_000000_000000_000000_1024D0_1024D1,
    0x1024D2_1024D3_1024D4_1024D5_1024D6_1024D7_1024D8_1024D9,
    0x1024DA_1024DB_1024DC_1024DD_1024DE_1024DF_1024E0_1024E1,
    0x1024E2_1024E3_1024E4_1024E5_1024E6_1024E7_1024E8_1024E9,
    0x2024B6_2024B7_2024B8_2024B9_2024BA_2024BB_2024BC_2024BD,
    0x2024BE_2024BF_2024C0_2024C1_2024C2_2024C3_2024C4_2024C5,
    0x2024C6_2024C7_2024C8_2024C9_2024CA_2024CB_2024CC_2024CD,
    0x2024CE_2024CF_000000_000000_000000_000000_000000_000000,
    0x000000_000000_000000_000000_000000_000000_000000_000000,
    0x000000_000000_000000_000000_000000_000000_000000_000000,
    0x102C30_102C31_102C32_102C33_102C34_102C35_102C36_102C37,
    0x102C38_102C39_102C3A_102C3B_102C3C_102C3D_102C3E_102C3F,
    0x102C40_102C41_102C42_102C43_102C44_102C45_102C46_102C47,
    0x102C48_102C49_102C4A_102C4B_102C4C_102C4D_102C4E_102C4F,
    0x102C50_102C51_102C52_102C53_102C54_102C55_102C56_102C57,
    0x102C58_102C59_102C5A_102C5B_102C5C_102C5D_102C5E_102C5F,
    0x202C00_202C01_202C02_202C03_202C04_202C05_202C06_202C07,
    0x202C08_202C09_202C0A_202C0B_202C0C_202C0D_202C0E_202C0F,
    0x202C10_202C11_202C12_202C13_202C14_202C15_202C16_202C17,
    0x202C18_202C19_202C1A_202C1B_202C1C_202C1D_202C1E_202C1F,
    0x202C20_202C21_202C22_202C23_202C24_202C25_202C26_202C27,
    0x202C28_202C29_202C2A_202C2B_202C2C_202C2D_202C2E_202C2F,
    0x102C61_202C60_10026B_101D7D_10027D_20023A_20023E_102C68,
    0x202C67_102C6A_202C69_102C6C_202C6B_100251_100271_100250,
    0x100252_000000_102C73_202C72_000000_102C76_202C75_000000,
    0x000000_000000_000000_000000_000000_000000_10023F_100240,
    0x102C81_202C80_102C83_202C82_102C85_202C84_102C87_202C86,
    0x102C89_202C88_102C8B_202C8A_102C8D_202C8C_102C8F_202C8E,
    0x102C91_202C90_102C93_202C92_102C95_202C94_102C97_202C96,
    0x102C99_202C98_102C9B_202C9A_102C9D_202C9C_102C9F_202C9E,
    0x102CA1_202CA0_102CA3_202CA2_102CA5_202CA4_102CA7_202CA6,
    0x102CA9_202CA8_102CAB_202CAA_102CAD_202CAC_102CAF_202CAE,
    0x102CB1_202CB0_102CB3_202CB2_102CB5_202CB4_102CB7_202CB6,
    0x102CB9_202CB8_102CBB_202CBA_102CBD_202CBC_102CBF_202CBE,
    0x102CC1_202CC0_102CC3_202CC2_102CC5_202CC4_102CC7_202CC6,
    0x102CC9_202CC8_102CCB_202CCA_102CCD_202CCC_102CCF_202CCE,
    0x102CD1_202CD0_102CD3_202CD2_102CD5_202CD4_102CD7_202CD6,
    0x102CD9_202CD8_102CDB_202CDA_102CDD_202CDC_102CDF_202CDE,
    0x102CE1_202CE0_102CE3_202CE2_000000_000000_000000_000000,
    0x000000_000000_000000_102CEC_202CEB_102CEE_202CED_000000,
    0x000000_000000_102CF3_202CF2_000000_000000_000000_000000,
    0x000000_000000_000000_000000_000000_000000_000000_000000,
    0x2010A0_2010A1_2010A2_2010A3_2010A4_2010A5_2010A6_2010A7,
    0x2010A8_2010A9_2010AA_2010AB_2010AC_2010AD_2010AE_2010AF,
    0x2010B0_2010B1_2010B2_2010B3_2010B4_2010B5_2010B6_2010B7,
    0x2010B8_2010B9_2010BA_2010BB_2010BC_2010BD_2010BE_2010BF,
    0x2010C0_2010C1_2010C2_2010C3_2010C4_2010C5_000000_2010C7,
    0x000000_000000_000000_000000_000000_2010CD_000000_000000,
    0x000000_000000_000000_000000_000000_000000_000000_000000,
    0x000000_000000_000000_000000_000000_000000_000000_000000,
    0x000000_000000_000000_000000_000000_000000_000000_000000,
    0x000000_000000_000000_000000_000000_000000_000000_000000,
    0x000000_000000_000000_000000_000000_000000_000000_000000,
    0x000000_000000_000000_000000_000000_000000_000000_000000,
    0x000000_000000_000000_000000_000000_000000_000000_000000,
    0x000000_000000_000000_000000_000000_000000_000000_000000,
    0x000000_000000_000000_000000_000000_000000_000000_000000,
    0x000000_000000_000000_000000_000000_000000_000000_000000,
    0x000000_000000_000000_000000_000000_000000_000000_000000,
    0x000000_000000_000000_000000_000000_000000_000000_000000,
    0x000000_000000_000000_000000_000000_000000_000000_000000,
    0x000000_000000_000000_000000_000000_000000_000000_000000,
    0x000000_000000_000000_000000_000000_000000_000000_000000,
    0x000000_000000_000000_000000_000000_000000_000000_000000,
    0x000000_000000_000000_000000_000000_000000_000000_000000,
    0x000000_000000_000000_000000_000000_000000_000000_000000,
    0x000000_000000_000000_000000_000000_000000_000000_000000,
    0x000000_000000_000000_000000_000000_000000_000000_000000,
    0x000000_000000_000000_000000_000000_000000_000000_000000,
    0x000000_000000_000000_000000_000000_000000_000000_000000,
    0x000000_000000_000000_000000_000000_000000_000000_000000,
    0x000000_000000_000000_000000_000000_000000_000000_000000,
    0x000000_000000_000000_000000_000000_000000_000000_000000,
    0x000000_000000_000000_000000_000000_000000_000000_000000,
    0x000000_000000_000000_000000_000000_000000_000000_000000,
    0x000000_000000_000000_000000_000000_000000_000000_000000,
    0x000000_000000_000000_000000_000000_000000_000000_000000,
    0x000000_000000_000000_000000_000000_000000_000000_000000,
    0x000000_000000_000000_000000_000000_000000_000000_000000,
    0x000000_000000_000000_000000_000000_000000_000000_000000,
    0x000000_000000_000000_000000_000000_000000_000000_000000,
    0x000000_000000_000000_000000_000000_000000_000000_000000,
    0x10A641_20A640_10A643_20A642_10A645_20A644_10A647_20A646,
    0x10A649_20A648_10A64B_20A64A_10A64D_20A64C_10A64F_20A64E,
    0x10A651_20A650_10A653_20A652_10A655_20A654_10A657_20A656,
    0x10A659_20A658_10A65B_20A65A_10A65D_20A65C_10A65F_20A65E,
    0x10A661_20A660_10A663_20A662_10A665_20A664_10A667_20A666,
    0x10A669_20A668_10A66B_20A66A_10A66D_20A66C_000000_000000,
    0x000000_000000_000000_000000_000000_000000_000000_000000,
    0x000000_000000_000000_000000_000000_000000_000000_000000,
    0x10A681_20A680_10A683_20A682_10A685_20A684_10A687_20A686,
    0x10A689_20A688_10A68B_20A68A_10A68D_20A68C_10A68F_20A68E,
    0x10A691_20A690_10A693_20A692_10A695_20A694_10A697_20A696,
    0x10A699_20A698_10A69B_20A69A_000000_000000_000000_000000,
    0x000000_000000_000000_000000_000000_000000_000000_000000,
    0x000000_000000_000000_000000_000000_000000_000000_000000,
    0x000000_000000_000000_000000_000000_000000_000000_000000,
    0x000000_000000_000000_000000_000000_000000_000000_000000,
    0x000000_000000_000000_000000_000000_000000_000000_000000,
    0x000000_000000_000000_000000_000000_000000_000000_000000,
    0x000000_000000_000000_000000_000000_000000_000000_000000,
    0x000000_000000_000000_000000_000000_000000_000000_000000,
    0x000000_000000_000000_000000_000000_000000_000000_000000,
    0x000000_000000_000000_000000_000000_000000_000000_000000,
    0x000000_000000_000000_000000_000000_000000_000000_000000,
    0x000000_000000_000000_000000_000000_000000_000000_000000,
    0x000000_000000_000000_000000_000000_000000_000000_000000,
    0x000000_000000_000000_000000_000000_000000_000000_000000,
    0x000000_000000_000000_000000_000000_000000_000000_000000,
    0x000000_000000_000000_000000_000000_000000_000000_000000,
    0x000000_000000_10A723_20A722_10A725_20A724_10A727_20A726,
    0x10A729_20A728_10A72B_20A72A_10A72D_20A72C_10A72F_20A72E,
    0x000000_000000_10A733_20A732_10A735_20A734_10A737_20A736,
    0x10A739_20A738_10A73B_20A73A_10A73D_20A73C_10A73F_20A73E,
    0x10A741_20A740_10A743_20A742_10A745_20A744_10A747_20A746,
    0x10A749_20A748_10A74B_20A74A_10A74D_20A74C_10A74F_20A74E,
    0x10A751_20A750_10A753_20A752_10A755_20A754_10A757_20A756,
    0x10A759_20A758_10A75B_20A75A_10A75D_20A75C_10A75F_20A75E,
    0x10A761_20A760_10A763_20A762_10A765_20A764_10A767_20A766,
    0x10A769_20A768_10A76B_20A76A_10A76D_20A76C_10A76F_20A76E,
    0x000000_000000_000000_000000_000000_000000_000000_000000,
    0x000000_10A77A_20A779_10A77C_20A77B_101D79_10A77F_20A77E,
    0x10A781_20A780_10A783_20A782_10A785_20A784_10A787_20A786,
    0x000000_000000_000000_10A78C_20A78B_100265_000000_000000,
    0x10A791_20A790_10A793_20A792_20A7C4_000000_10A797_20A796,
    0x10A799_20A798_10A79B_20A79A_10A79D_20A79C_10A79F_20A79E,
    0x10A7A1_20A7A0_10A7A3_20A7A2_10A7A5_20A7A4_10A7A7_20A7A6,
    0x10A7A9_20A7A8_100266_10025C_100261_10026C_10026A_000000,
    0x10029E_100287_10029D_10AB53_10A7B5_20A7B4_10A7B7_20A7B6,
    0x10A7B9_20A7B8_10A7BB_20A7BA_10A7BD_20A7BC_10A7BF_20A7BE,
    0x10A7C1_20A7C0_10A7C3_20A7C2_10A794_100282_101D8E_10A7C8,
    0x20A7C7_10A7CA_20A7C9_000000_000000_000000_000000_000000,
    0x10A7D1_20A7D0_000000_000000_000000_000000_10A7D7_20A7D6,
    0x10A7D9_20A7D8_000000_000000_000000_000000_000000_000000,
    0x000000_000000_000000_000000_000000_000000_000000_000000,
    0x000000_000000_000000_000000_000000_000000_000000_000000,
    0x000000_000000_000000_000000_000000_10A7F6_20A7F5_000000,
    0x000000_000000_000000_000000_000000_000000_000000_000000,
    0x000000_000000_000000_000000_000000_000000_000000_000000,
    0x000000_000000_000000_000000_000000_000000_000000_000000,
    0x000000_000000_000000_000000_000000_000000_000000_000000,
    0x000000_000000_000000_000000_000000_000000_000000_000000,
    0x000000_000000_000000_000000_000000_000000_000000_000000,
    0x000000_000000_000000_000000_000000_000000_000000_000000,
    0x000000_000000_000000_000000_000000_000000_000000_000000,
    0x000000_000000_000000_000000_000000_000000_000000_000000,
    0x000000_000000_000000_000000_000000_000000_000000_000000,
    0x000000_000000_000000_000000_000000_000000_000000_000000,
    0x000000_000000_000000_20A7B3_000000_000000_000000_000000,
    0x000000_000000_000000_000000_000000_000000_000000_000000,
    0x000000_000000_000000_000000_000000_000000_000000_000000,
    0x000000_000000_000000_000000_000000_000000_000000_000000,
    0x2013A0_2013A1_2013A2_2013A3_2013A4_2013A5_2013A6_2013A7,
    0x2013A8_2013A9_2013AA_2013AB_2013AC_2013AD_2013AE_2013AF,
    0x2013B0_2013B1_2013B2_2013B3_2013B4_2013B5_2013B6_2013B7,
    0x2013B8_2013B9_2013BA_2013BB_2013BC_2013BD_2013BE_2013BF,
    0x2013C0_2013C1_2013C2_2013C3_2013C4_2013C5_2013C6_2013C7,
    0x2013C8_2013C9_2013CA_2013CB_2013CC_2013CD_2013CE_2013CF,
    0x2013D0_2013D1_2013D2_2013D3_2013D4_2013D5_2013D6_2013D7,
    0x2013D8_2013D9_2013DA_2013DB_2013DC_2013DD_2013DE_2013DF,
    0x2013E0_2013E1_2013E2_2013E3_2013E4_2013E5_2013E6_2013E7,
    0x2013E8_2013E9_2013EA_2013EB_2013EC_2013ED_2013EE_2013EF,
    0x000000_000000_000000_000000_000000_000000_000000_000000,
    0x000000_000000_000000_000000_000000_000000_000000_000000,
    0x000000_000000_000000_000000_000000_000000_000000_000000,
    0x000000_000000_000000_000000_000000_000000_000000_000000,
    0x000000_000000_000000_000000_000000_000000_000000_000000,
    0x000000_000000_000000_000000_000000_000000_000000_000000,
    0x000000_000000_000000_000000_000000_000000_000000_000000,
    0x000000_000000_000000_000000_000000_000000_000000_000000,
    0x000000_000000_000000_000000_000000_000000_000000_000000,
    0x000000_000000_000000_000000_000000_000000_000000_000000,
    0x000000_000000_000000_000000_000000_000000_000000_000000,
    0x000000_000000_000000_000000_000000_000000_000000_000000,
    0x000000_10FF41_10FF42_10FF43_10FF44_10FF45_10FF46_10FF47,
    0x10FF48_10FF49_10FF4A_10FF4B_10FF4C_10FF4D_10FF4E_10FF4F,
    0x10FF50_10FF51_10FF52_10FF53_10FF54_10FF55_10FF56_10FF57,
    0x10FF58_10FF59_10FF5A_000000_000000_000000_000000_000000,
    0x000000_20FF21_20FF22_20FF23_20FF24_20FF25_20FF26_20FF27,
    0x20FF28_20FF29_20FF2A_20FF2B_20FF2C_20FF2D_20FF2E_20FF2F,
    0x20FF30_20FF31_20FF32_20FF33_20FF34_20FF35_20FF36_20FF37,
    0x20FF38_20FF39_20FF3A_000000_000000_000000_000000_000000,
    0x000000_000000_000000_000000_000000_000000_000000_000000,
    0x000000_000000_000000_000000_000000_000000_000000_000000,
    0x000000_000000_000000_000000_000000_000000_000000_000000,
    0x000000_000000_000000_000000_000000_000000_000000_000000,
    0x000000_000000_000000_000000_000000_000000_000000_000000,
    0x000000_000000_000000_000000_000000_000000_000000_000000,
    0x000000_000000_000000_000000_000000_000000_000000_000000,
    0x000000_000000_000000_000000_000000_000000_000000_000000,
    0x000000_000000_000000_000000_000000_000000_000000_000000,
    0x000000_000000_000000_000000_000000_000000_000000_000000,
    0x000000_000000_000000_000000_000000_000000_000000_000000,
    0x000000_000000_000000_000000_000000_000000_000000_000000,
    0x000000_000000_000000_000000_000000_000000_000000_000000,
    0x000000_000000_000000_000000_000000_000000_000000_000000,
    0x000000_000000_000000_000000_000000_000000_000000_000000,
    0x000000_000000_000000_000000_000000_000000_000000_000000,
    0x000000_000000_000000_000000_000000_000000_000000_000000,
    0x000000_000000_000000_000000_000000_000000_000000_000000,
    0x000000_000000_000000_000000_000000_000000_000000_000000,
    0x000000_000000_000000_000000_000000_000000_000000_000000,
    0x110428_110429_11042A_11042B_11042C_11042D_11042E_11042F,
    0x110430_110431_110432_110433_110434_110435_110436_110437,
    0x110438_110439_11043A_11043B_11043C_11043D_11043E_11043F,
    0x110440_110441_110442_110443_110444_110445_110446_110447,
    0x110448_110449_11044A_11044B_11044C_11044D_11044E_11044F,
    0x210400_210401_210402_210403_210404_210405_210406_210407,
    0x210408_210409_21040A_21040B_21040C_21040D_21040E_21040F,
    0x210410_210411_210412_210413_210414_210415_210416_210417,
    0x210418_210419_21041A_21041B_21041C_21041D_21041E_21041F,
    0x210420_210421_210422_210423_210424_210425_210426_210427,
    0x000000_000000_000000_000000_000000_000000_000000_000000,
    0x000000_000000_000000_000000_000000_000000_000000_000000,
    0x000000_000000_000000_000000_000000_000000_000000_000000,
    0x000000_000000_000000_000000_000000_000000_000000_000000,
    0x000000_000000_000000_000000_000000_000000_000000_000000,
    0x000000_000000_000000_000000_000000_000000_000000_000000,
    0x000000_000000_000000_000000_000000_000000_000000_000000,
    0x000000_000000_000000_000000_000000_000000_000000_000000,
    0x000000_000000_000000_000000_000000_000000_000000_000000,
    0x000000_000000_000000_000000_000000_000000_000000_000000,
    0x000000_000000_000000_000000_000000_000000_000000_000000,
    0x000000_000000_000000_000000_000000_000000_000000_000000,
    0x1104D8_1104D9_1104DA_1104DB_1104DC_1104DD_1104DE_1104DF,
    0x1104E0_1104E1_1104E2_1104E3_1104E4_1104E5_1104E6_1104E7,
    0x1104E8_1104E9_1104EA_1104EB_1104EC_1104ED_1104EE_1104EF,
    0x1104F0_1104F1_1104F2_1104F3_1104F4_1104F5_1104F6_1104F7,
    0x1104F8_1104F9_1104FA_1104FB_000000_000000_000000_000000,
    0x2104B0_2104B1_2104B2_2104B3_2104B4_2104B5_2104B6_2104B7,
    0x2104B8_2104B9_2104BA_2104BB_2104BC_2104BD_2104BE_2104BF,
    0x2104C0_2104C1_2104C2_2104C3_2104C4_2104C5_2104C6_2104C7,
    0x2104C8_2104C9_2104CA_2104CB_2104CC_2104CD_2104CE_2104CF,
    0x2104D0_2104D1_2104D2_2104D3_000000_000000_000000_000000,
    0x000000_000000_000000_000000_000000_000000_000000_000000,
    0x000000_000000_000000_000000_000000_000000_000000_000000,
    0x000000_000000_000000_000000_000000_000000_000000_000000,
    0x000000_000000_000000_000000_000000_000000_000000_000000,
    0x000000_000000_000000_000000_000000_000000_000000_000000,
    0x000000_000000_000000_000000_000000_000000_000000_000000,
    0x000000_000000_000000_000000_000000_000000_000000_000000,
    0x000000_000000_000000_000000_000000_000000_000000_000000,
    0x000000_000000_000000_000000_000000_000000_000000_000000,
    0x000000_000000_000000_000000_000000_000000_000000_000000,
    0x000000_000000_000000_000000_000000_000000_000000_000000,
    0x000000_000000_000000_000000_000000_000000_000000_000000,
    0x000000_000000_000000_000000_000000_000000_000000_000000,
    0x000000_000000_000000_000000_000000_000000_000000_000000,
    0x110597_110598_110599_11059A_11059B_11059C_11059D_11059E,
    0x11059F_1105A0_1105A1_000000_1105A3_1105A4_1105A5_1105A6,
    0x1105A7_1105A8_1105A9_1105AA_1105AB_1105AC_1105AD_1105AE,
    0x1105AF_1105B0_1105B1_000000_1105B3_1105B4_1105B5_1105B6,
    0x1105B7_1105B8_1105B9_000000_1105BB_1105BC_000000_210570,
    0x210571_210572_210573_210574_210575_210576_210577_210578,
    0x210579_21057A_000000_21057C_21057D_21057E_21057F_210580,
    0x210581_210582_210583_210584_210585_210586_210587_210588,
    0x210589_21058A_000000_21058C_21058D_21058E_21058F_210590,
    0x210591_210592_000000_210594_210595_000000_000000_000000,
    0x000000_000000_000000_000000_000000_000000_000000_000000,
    0x000000_000000_000000_000000_000000_000000_000000_000000,
    0x000000_000000_000000_000000_000000_000000_000000_000000,
    0x000000_000000_000000_000000_000000_000000_000000_000000,
    0x000000_000000_000000_000000_000000_000000_000000_000000,
    0x000000_000000_000000_000000_000000_000000_000000_000000,
    0x000000_000000_000000_000000_000000_000000_000000_000000,
    0x000000_000000_000000_000000_000000_000000_000000_000000,
    0x000000_000000_000000_000000_000000_000000_000000_000000,
    0x000000_000000_000000_000000_000000_000000_000000_000000,
    0x000000_000000_000000_000000_000000_000000_000000_000000,
    0x000000_000000_000000_000000_000000_000000_000000_000000,
    0x000000_000000_000000_000000_000000_000000_000000_000000,
    0x000000_000000_000000_000000_000000_000000_000000_000000,
    0x000000_000000_000000_000000_000000_000000_000000_000000,
    0x000000_000000_000000_000000_000000_000000_000000_000000,
    0x000000_000000_000000_000000_000000_000000_000000_000000,
    0x000000_000000_000000_000000_000000_000000_000000_000000,
    0x000000_000000_000000_000000_000000_000000_000000_000000,
    0x000000_000000_000000_000000_000000_000000_000000_000000,
    0x000000_000000_000000_000000_000000_000000_000000_000000,
    0x000000_000000_000000_000000_000000_000000_000000_000000,
    0x000000_000000_000000_000000_000000_000000_000000_000000,
    0x000000_000000_000000_000000_000000_000000_000000_000000,
    0x110CC0_110CC1_110CC2_110CC3_110CC4_110CC5_110CC6_110CC7,
    0x110CC8_110CC9_110CCA_110CCB_110CCC_110CCD_110CCE_110CCF,
    0x110CD0_110CD1_110CD2_110CD3_110CD4_110CD5_110CD6_110CD7,
    0x110CD8_110CD9_110CDA_110CDB_110CDC_110CDD_110CDE_110CDF,
    0x110CE0_110CE1_110CE2_110CE3_110CE4_110CE5_110CE6_110CE7,
    0x110CE8_110CE9_110CEA_110CEB_110CEC_110CED_110CEE_110CEF,
    0x110CF0_110CF1_110CF2_000000_000000_000000_000000_000000,
    0x000000_000000_000000_000000_000000_000000_000000_000000,
    0x210C80_210C81_210C82_210C83_210C84_210C85_210C86_210C87,
    0x210C88_210C89_210C8A_210C8B_210C8C_210C8D_210C8E_210C8F,
    0x210C90_210C91_210C92_210C93_210C94_210C95_210C96_210C97,
    0x210C98_210C99_210C9A_210C9B_210C9C_210C9D_210C9E_210C9F,
    0x210CA0_210CA1_210CA2_210CA3_210CA4_210CA5_210CA6_210CA7,
    0x210CA8_210CA9_210CAA_210CAB_210CAC_210CAD_210CAE_210CAF,
    0x210CB0_210CB1_210CB2_000000_000000_000000_000000_000000,
    0x000000_000000_000000_000000_000000_000000_000000_000000,
    0x000000_000000_000000_000000_000000_000000_000000_000000,
    0x000000_000000_000000_000000_000000_000000_000000_000000,
    0x000000_000000_000000_000000_000000_000000_000000_000000,
    0x000000_000000_000000_000000_000000_000000_000000_000000,
    0x000000_000000_000000_000000_000000_000000_000000_000000,
    0x000000_000000_000000_000000_000000_000000_000000_000000,
    0x000000_000000_000000_000000_000000_000000_000000_000000,
    0x000000_000000_000000_000000_000000_000000_000000_000000,
    0x000000_000000_000000_000000_000000_000000_000000_000000,
    0x000000_000000_000000_000000_000000_000000_000000_000000,
    0x000000_000000_000000_000000_000000_000000_000000_000000,
    0x000000_000000_000000_000000_000000_000000_000000_000000,
    0x000000_000000_000000_000000_000000_000000_000000_000000,
    0x000000_000000_000000_000000_000000_000000_000000_000000,
    0x000000_000000_000000_000000_000000_000000_000000_000000,
    0x000000_000000_000000_000000_000000_000000_000000_000000,
    0x000000_000000_000000_000000_000000_000000_000000_000000,
    0x000000_000000_000000_000000_000000_000000_000000_000000,
    0x000000_000000_000000_000000_000000_000000_000000_000000,
    0x000000_000000_000000_000000_000000_000000_000000_000000,
    0x1118C0_1118C1_1118C2_1118C3_1118C4_1118C5_1118C6_1118C7,
    0x1118C8_1118C9_1118CA_1118CB_1118CC_1118CD_1118CE_1118CF,
    0x1118D0_1118D1_1118D2_1118D3_1118D4_1118D5_1118D6_1118D7,
    0x1118D8_1118D9_1118DA_1118DB_1118DC_1118DD_1118DE_1118DF,
    0x2118A0_2118A1_2118A2_2118A3_2118A4_2118A5_2118A6_2118A7,
    0x2118A8_2118A9_2118AA_2118AB_2118AC_2118AD_2118AE_2118AF,
    0x2118B0_2118B1_2118B2_2118B3_2118B4_2118B5_2118B6_2118B7,
    0x2118B8_2118B9_2118BA_2118BB_2118BC_2118BD_2118BE_2118BF,
    0x000000_000000_000000_000000_000000_000000_000000_000000,
    0x000000_000000_000000_000000_000000_000000_000000_000000,
    0x000000_000000_000000_000000_000000_000000_000000_000000,
    0x000000_000000_000000_000000_000000_000000_000000_000000,
    0x000000_000000_000000_000000_000000_000000_000000_000000,
    0x000000_000000_000000_000000_000000_000000_000000_000000,
    0x000000_000000_000000_000000_000000_000000_000000_000000,
    0x000000_000000_000000_000000_000000_000000_000000_000000,
    0x000000_000000_000000_000000_000000_000000_000000_000000,
    0x000000_000000_000000_000000_000000_000000_000000_000000,
    0x000000_000000_000000_000000_000000_000000_000000_000000,
    0x000000_000000_000000_000000_000000_000000_000000_000000,
    0x116E60_116E61_116E62_116E63_116E64_116E65_116E66_116E67,
    0x116E68_116E69_116E6A_116E6B_116E6C_116E6D_116E6E_116E6F,
    0x116E70_116E71_116E72_116E73_116E74_116E75_116E76_116E77,
    0x116E78_116E79_116E7A_116E7B_116E7C_116E7D_116E7E_116E7F,
    0x216E40_216E41_216E42_216E43_216E44_216E45_216E46_216E47,
    0x216E48_216E49_216E4A_216E4B_216E4C_216E4D_216E4E_216E4F,
    0x216E50_216E51_216E52_216E53_216E54_216E55_216E56_216E57,
    0x216E58_216E59_216E5A_216E5B_216E5C_216E5D_216E5E_216E5F,
    0x000000_000000_000000_000000_000000_000000_000000_000000,
    0x000000_000000_000000_000000_000000_000000_000000_000000,
    0x000000_000000_000000_000000_000000_000000_000000_000000,
    0x000000_000000_000000_000000_000000_000000_000000_000000,
    0x000000_000000_000000_000000_000000_000000_000000_000000,
    0x000000_000000_000000_000000_000000_000000_000000_000000,
    0x000000_000000_000000_000000_000000_000000_000000_000000,
    0x000000_000000_000000_000000_000000_000000_000000_000000,
    0x000000_000000_000000_000000_000000_000000_000000_000000,
    0x000000_000000_000000_000000_000000_000000_000000_000000,
    0x000000_000000_000000_000000_000000_000000_000000_000000,
    0x000000_000000_000000_000000_000000_000000_000000_000000,
    0x000000_000000_000000_000000_000000_000000_000000_000000,
    0x000000_000000_000000_000000_000000_000000_000000_000000,
    0x000000_000000_000000_000000_000000_000000_000000_000000,
    0x000000_000000_000000_000000_000000_000000_000000_000000,
    0x11E922_11E923_11E924_11E925_11E926_11E927_11E928_11E929,
    0x11E92A_11E92B_11E92C_11E92D_11E92E_11E92F_11E930_11E931,
    0x11E932_11E933_11E934_11E935_11E936_11E937_11E938_11E939,
    0x11E93A_11E93B_11E93C_11E93D_11E93E_11E93F_11E940_11E941,
    0x11E942_11E943_21E900_21E901_21E902_21E903_21E904_21E905,
    0x21E906_21E907_21E908_21E909_21E90A_21E90B_21E90C_21E90D,
    0x21E90E_21E90F_21E910_21E911_21E912_21E913_21E914_21E915,
    0x21E916_21E917_21E918_21E919_21E91A_21E91B_21E91C_21E91D,
    0x21E91E_21E91F_21E920_21E921_000000_000000_000000_000000,
    0x000000_000000_000000_000000_000000_000000_000000_000000,
    0x000000_000000_000000_000000_000000_000000_000000_000000,
    0x000000_000000_000000_000000_000000_000000_000000_000000,
    0x000000_000000_000000_000000_000000_000000_000000_000000,
    0x000000_000000_000000_000000_000000_000000_000000_000000,
    0x000000_000000_000000_000000_000000_000000_000000_000000,
    0x000000_000000_000000_000000_000000_000000_000000_000000,
    0x000000_000000_000000_000000_000000_000000_000000_000000,
    0x000000_000000_000000_000000_000000_000000_000000_000000,
    0x000000_000000_000000_000000_000000_000000_000000_000000,
    0x000000_000000_000000_000000_000000_000000_000000_000000,
    0x000000_000000_000000_000000_000000_000000_000000_000000,
    0x000000_000000_000000_000000_000000_000000_000000_000000,
    0x000000_000000_000000_000000_000000_000000_000000_000000,
    0x000000_000000_000000_000000_000000_000000_000000_000000,
    0x000000_000000_000000_000000_000000_000000_000000_000000,
    0x000000_000000_000000_000000_000000_000000_000000_000000,
    0x000000_000000_000000_000000_000000_000000_000000_000000,
    0x000000_000000_000000_000000_000000_000000_000000_000000,
    0x000000_000000_000000_000000_000000_000000_000000_000000,
    0x000000_000000_000000_000000_000000_000000_000000_000000,
    0x000000_000000_000000_000000_000000_000000_000000_000000,
    0x000000_000000_000000_000000_000000_000000_000000_000000]

end UnicodeText.Data
