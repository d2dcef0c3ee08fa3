/-!
# Composed characters

Each word is a character and the two that it is composed of. Characters that no mapped
name has are left out, and so are the syllables of Hangul, which follow a rule.
-/

namespace Sinkhole
namespace Idna

/-- The composed characters with their parts. -/
def compositionRows : String := "
00E0=0061+0300 00E1=0061+0301 00E2=0061+0302 00E3=0061+0303 00E4=0061+0308 00E5=0061+030A
00E7=0063+0327 00E8=0065+0300 00E9=0065+0301 00EA=0065+0302 00EB=0065+0308 00EC=0069+0300
00ED=0069+0301 00EE=0069+0302 00EF=0069+0308 00F1=006E+0303 00F2=006F+0300 00F3=006F+0301
00F4=006F+0302 00F5=006F+0303 00F6=006F+0308 00F9=0075+0300 00FA=0075+0301 00FB=0075+0302
00FC=0075+0308 00FD=0079+0301 00FF=0079+0308 0101=0061+0304 0103=0061+0306 0105=0061+0328
0107=0063+0301 0109=0063+0302 010B=0063+0307 010D=0063+030C 010F=0064+030C 0113=0065+0304
0115=0065+0306 0117=0065+0307 0119=0065+0328 011B=0065+030C 011D=0067+0302 011F=0067+0306
0121=0067+0307 0123=0067+0327 0125=0068+0302 0129=0069+0303 012B=0069+0304 012D=0069+0306
012F=0069+0328 0135=006A+0302 0137=006B+0327 013A=006C+0301 013C=006C+0327 013E=006C+030C
0144=006E+0301 0146=006E+0327 0148=006E+030C 014D=006F+0304 014F=006F+0306 0151=006F+030B
0155=0072+0301 0157=0072+0327 0159=0072+030C 015B=0073+0301 015D=0073+0302 015F=0073+0327
0161=0073+030C 0163=0074+0327 0165=0074+030C 0169=0075+0303 016B=0075+0304 016D=0075+0306
016F=0075+030A 0171=0075+030B 0173=0075+0328 0175=0077+0302 0177=0079+0302 017A=007A+0301
017C=007A+0307 017E=007A+030C 01A1=006F+031B 01B0=0075+031B 01CE=0061+030C 01D0=0069+030C
01D2=006F+030C 01D4=0075+030C 01D6=00FC+0304 01D8=00FC+0301 01DA=00FC+030C 01DC=00FC+0300
01DF=00E4+0304 01E1=0227+0304 01E3=00E6+0304 01E7=0067+030C 01E9=006B+030C 01EB=006F+0328
01ED=01EB+0304 01EF=0292+030C 01F0=006A+030C 01F5=0067+0301 01F9=006E+0300 01FB=00E5+0301
01FD=00E6+0301 01FF=00F8+0301 0201=0061+030F 0203=0061+0311 0205=0065+030F 0207=0065+0311
0209=0069+030F 020B=0069+0311 020D=006F+030F 020F=006F+0311 0211=0072+030F 0213=0072+0311
0215=0075+030F 0217=0075+0311 0219=0073+0326 021B=0074+0326 021F=0068+030C 0227=0061+0307
0229=0065+0327 022B=00F6+0304 022D=00F5+0304 022F=006F+0307 0231=022F+0304 0233=0079+0304
0390=03CA+0301 03AC=03B1+0301 03AD=03B5+0301 03AE=03B7+0301 03AF=03B9+0301 03B0=03CB+0301
03CA=03B9+0308 03CB=03C5+0308 03CC=03BF+0301 03CD=03C5+0301 03CE=03C9+0301 0439=0438+0306
0450=0435+0300 0451=0435+0308 0453=0433+0301 0457=0456+0308 045C=043A+0301 045D=0438+0300
045E=0443+0306 0477=0475+030F 04C2=0436+0306 04D1=0430+0306 04D3=0430+0308 04D7=0435+0306
04DB=04D9+0308 04DD=0436+0308 04DF=0437+0308 04E3=0438+0304 04E5=0438+0308 04E7=043E+0308
04EB=04E9+0308 04ED=044D+0308 04EF=0443+0304 04F1=0443+0308 04F3=0443+030B 04F5=0447+0308
04F9=044B+0308 0622=0627+0653 0623=0627+0654 0624=0648+0654 0625=0627+0655 0626=064A+0654
06C0=06D5+0654 06C2=06C1+0654 06D3=06D2+0654 0929=0928+093C 0931=0930+093C 0934=0933+093C
09CB=09C7+09BE 09CC=09C7+09D7 0B48=0B47+0B56 0B4B=0B47+0B3E 0B4C=0B47+0B57 0B94=0B92+0BD7
0BCA=0BC6+0BBE 0BCB=0BC7+0BBE 0BCC=0BC6+0BD7 0C48=0C46+0C56 0CC0=0CBF+0CD5 0CC7=0CC6+0CD5
0CC8=0CC6+0CD6 0CCA=0CC6+0CC2 0CCB=0CCA+0CD5 0D4A=0D46+0D3E 0D4B=0D47+0D3E 0D4C=0D46+0D57
0DDA=0DD9+0DCA 0DDC=0DD9+0DCF 0DDD=0DDC+0DCA 0DDE=0DD9+0DDF 1026=1025+102E 1B06=1B05+1B35
1B08=1B07+1B35 1B0A=1B09+1B35 1B0C=1B0B+1B35 1B0E=1B0D+1B35 1B12=1B11+1B35 1B3B=1B3A+1B35
1B3D=1B3C+1B35 1B40=1B3E+1B35 1B41=1B3F+1B35 1B43=1B42+1B35 1E01=0061+0325 1E03=0062+0307
1E05=0062+0323 1E07=0062+0331 1E09=00E7+0301 1E0B=0064+0307 1E0D=0064+0323 1E0F=0064+0331
1E11=0064+0327 1E13=0064+032D 1E15=0113+0300 1E17=0113+0301 1E19=0065+032D 1E1B=0065+0330
1E1D=0229+0306 1E1F=0066+0307 1E21=0067+0304 1E23=0068+0307 1E25=0068+0323 1E27=0068+0308
1E29=0068+0327 1E2B=0068+032E 1E2D=0069+0330 1E2F=00EF+0301 1E31=006B+0301 1E33=006B+0323
1E35=006B+0331 1E37=006C+0323 1E39=1E37+0304 1E3B=006C+0331 1E3D=006C+032D 1E3F=006D+0301
1E41=006D+0307 1E43=006D+0323 1E45=006E+0307 1E47=006E+0323 1E49=006E+0331 1E4B=006E+032D
1E4D=00F5+0301 1E4F=00F5+0308 1E51=014D+0300 1E53=014D+0301 1E55=0070+0301 1E57=0070+0307
1E59=0072+0307 1E5B=0072+0323 1E5D=1E5B+0304 1E5F=0072+0331 1E61=0073+0307 1E63=0073+0323
1E65=015B+0307 1E67=0161+0307 1E69=1E63+0307 1E6B=0074+0307 1E6D=0074+0323 1E6F=0074+0331
1E71=0074+032D 1E73=0075+0324 1E75=0075+0330 1E77=0075+032D 1E79=0169+0301 1E7B=016B+0308
1E7D=0076+0303 1E7F=0076+0323 1E81=0077+0300 1E83=0077+0301 1E85=0077+0308 1E87=0077+0307
1E89=0077+0323 1E8B=0078+0307 1E8D=0078+0308 1E8F=0079+0307 1E91=007A+0302 1E93=007A+0323
1E95=007A+0331 1E96=0068+0331 1E97=0074+0308 1E98=0077+030A 1E99=0079+030A 1EA1=0061+0323
1EA3=0061+0309 1EA5=00E2+0301 1EA7=00E2+0300 1EA9=00E2+0309 1EAB=00E2+0303 1EAD=1EA1+0302
1EAF=0103+0301 1EB1=0103+0300 1EB3=0103+0309 1EB5=0103+0303 1EB7=1EA1+0306 1EB9=0065+0323
1EBB=0065+0309 1EBD=0065+0303 1EBF=00EA+0301 1EC1=00EA+0300 1EC3=00EA+0309 1EC5=00EA+0303
1EC7=1EB9+0302 1EC9=0069+0309 1ECB=0069+0323 1ECD=006F+0323 1ECF=006F+0309 1ED1=00F4+0301
1ED3=00F4+0300 1ED5=00F4+0309 1ED7=00F4+0303 1ED9=1ECD+0302 1EDB=01A1+0301 1EDD=01A1+0300
1EDF=01A1+0309 1EE1=01A1+0303 1EE3=01A1+0323 1EE5=0075+0323 1EE7=0075+0309 1EE9=01B0+0301
1EEB=01B0+0300 1EED=01B0+0309 1EEF=01B0+0303 1EF1=01B0+0323 1EF3=0079+0300 1EF5=0079+0323
1EF7=0079+0309 1EF9=0079+0303 1F00=03B1+0313 1F01=03B1+0314 1F02=1F00+0300 1F03=1F01+0300
1F04=1F00+0301 1F05=1F01+0301 1F06=1F00+0342 1F07=1F01+0342 1F10=03B5+0313 1F11=03B5+0314
1F12=1F10+0300 1F13=1F11+0300 1F14=1F10+0301 1F15=1F11+0301 1F20=03B7+0313 1F21=03B7+0314
1F22=1F20+0300 1F23=1F21+0300 1F24=1F20+0301 1F25=1F21+0301 1F26=1F20+0342 1F27=1F21+0342
1F30=03B9+0313 1F31=03B9+0314 1F32=1F30+0300 1F33=1F31+0300 1F34=1F30+0301 1F35=1F31+0301
1F36=1F30+0342 1F37=1F31+0342 1F40=03BF+0313 1F41=03BF+0314 1F42=1F40+0300 1F43=1F41+0300
1F44=1F40+0301 1F45=1F41+0301 1F50=03C5+0313 1F51=03C5+0314 1F52=1F50+0300 1F53=1F51+0300
1F54=1F50+0301 1F55=1F51+0301 1F56=1F50+0342 1F57=1F51+0342 1F60=03C9+0313 1F61=03C9+0314
1F62=1F60+0300 1F63=1F61+0300 1F64=1F60+0301 1F65=1F61+0301 1F66=1F60+0342 1F67=1F61+0342
1F70=03B1+0300 1F72=03B5+0300 1F74=03B7+0300 1F76=03B9+0300 1F78=03BF+0300 1F7A=03C5+0300
1F7C=03C9+0300 1FB0=03B1+0306 1FB1=03B1+0304 1FB6=03B1+0342 1FC6=03B7+0342 1FD0=03B9+0306
1FD1=03B9+0304 1FD2=03CA+0300 1FD6=03B9+0342 1FD7=03CA+0342 1FE0=03C5+0306 1FE1=03C5+0304
1FE2=03CB+0300 1FE4=03C1+0313 1FE5=03C1+0314 1FE6=03C5+0342 1FE7=03CB+0342 1FF6=03C9+0342
219A=2190+0338 219B=2192+0338 21AE=2194+0338 21CD=21D0+0338 21CE=21D4+0338 21CF=21D2+0338
2204=2203+0338 2209=2208+0338 220C=220B+0338 2224=2223+0338 2226=2225+0338 2241=223C+0338
2244=2243+0338 2247=2245+0338 2249=2248+0338 2260=003D+0338 2262=2261+0338 226D=224D+0338
226E=003C+0338 226F=003E+0338 2270=2264+0338 2271=2265+0338 2274=2272+0338 2275=2273+0338
2278=2276+0338 2279=2277+0338 2280=227A+0338 2281=227B+0338 2284=2282+0338 2285=2283+0338
2288=2286+0338 2289=2287+0338 22AC=22A2+0338 22AD=22A8+0338 22AE=22A9+0338 22AF=22AB+0338
22E0=227C+0338 22E1=227D+0338 22E2=2291+0338 22E3=2292+0338 22EA=22B2+0338 22EB=22B3+0338
22EC=22B4+0338 22ED=22B5+0338 304C=304B+3099 304E=304D+3099 3050=304F+3099 3052=3051+3099
3054=3053+3099 3056=3055+3099 3058=3057+3099 305A=3059+3099 305C=305B+3099 305E=305D+3099
3060=305F+3099 3062=3061+3099 3065=3064+3099 3067=3066+3099 3069=3068+3099 3070=306F+3099
3071=306F+309A 3073=3072+3099 3074=3072+309A 3076=3075+3099 3077=3075+309A 3079=3078+3099
307A=3078+309A 307C=307B+3099 307D=307B+309A 3094=3046+3099 309E=309D+3099 30AC=30AB+3099
30AE=30AD+3099 30B0=30AF+3099 30B2=30B1+3099 30B4=30B3+3099 30B6=30B5+3099 30B8=30B7+3099
30BA=30B9+3099 30BC=30BB+3099 30BE=30BD+3099 30C0=30BF+3099 30C2=30C1+3099 30C5=30C4+3099
30C7=30C6+3099 30C9=30C8+3099 30D0=30CF+3099 30D1=30CF+309A 30D3=30D2+3099 30D4=30D2+309A
30D6=30D5+3099 30D7=30D5+309A 30D9=30D8+3099 30DA=30D8+309A 30DC=30DB+3099 30DD=30DB+309A
30F4=30A6+3099 30F7=30EF+3099 30F8=30F0+3099 30F9=30F1+3099 30FA=30F2+3099 30FE=30FD+3099
105C9=105D2+0307 105E4=105DA+0307 1109A=11099+110BA 1109C=1109B+110BA 110AB=110A5+110BA
1112E=11131+11127 1112F=11132+11127 1134B=11347+1133E 1134C=11347+11357 11383=11382+113C9
11385=11384+113BB 1138E=1138B+113C2 11391=11390+113C9 113C5=113C2+113C2 113C7=113C2+113B8
113C8=113C2+113C9 114BB=114B9+114BA 114BC=114B9+114B0 114BE=114B9+114BD 115BA=115B8+115AF
115BB=115B9+115AF 11938=11935+11930 16121=1611E+1611E 16122=1611E+16129 16123=1611E+1611F
16124=16129+1611F 16125=1611E+16120 16126=16121+1611F 16127=16122+1611F 16128=16121+16120
16D68=16D67+16D67 16D69=16D63+16D67 16D6A=16D69+16D67"

end Idna
end Sinkhole
